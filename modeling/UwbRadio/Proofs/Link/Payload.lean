import UwbRadio.Proofs.Frame.RoundTrip
import UwbRadio.Proofs.Link.Acceptance
import UwbRadio.Proofs.Link.Balance

/-!
The bytes in the buffers. A copy writes into its own buffer alone; when its frame is
accepted, the buffer holds the payload of the frame that has just been read, and no copy
will write there again as long as the buffer is reserved.
-/

namespace UwbRadio

theorem decodeFrame?_payload {bytes : Bytes} {frame : LinkFrame}
    (decoded : decodeFrame? bytes = some frame) :
    bytes.drop (bytes.length - frame.payload.length) = frame.payload := by
  obtain ⟨header, whole, _⟩ := decodeFrame?_parts decoded
  rw [whole, ← List.append_assoc]
  apply List.drop_left'
  generalize header ++ linkTag = front
  rw [List.length_append, Nat.add_sub_cancel]

theorem Buffer.contents_advance {size : Nat} (buffer : Buffer size) (count : Nat) :
    (buffer.advance count).contents = buffer.contents.drop count := by
  have length : (buffer.contents.drop count).length = buffer.used - count := by
    rw [List.length_drop, contents_length]
  have data : (buffer.advance count).data =
      buffer.contents.drop count ++
        buffer.data.drop (0 + (buffer.contents.drop count).length) := rfl
  have used : (buffer.advance count).used = buffer.used - count := rfl
  rw [contents, data, used]
  exact List.take_left' length

namespace Pool

variable {slots size : Nat} {pool after : Pool slots size} {slot other : Slot}

theorem SameBytes.contents (same : pool.SameBytes after) (slot : Slot) :
    after.contents slot = pool.contents slot := by
  rw [Pool.contents, Pool.contents, buffer?, buffer?, same.buffers]

theorem contents_elsewhere {buffer : Buffer size}
    (loaded : after.buffers = pool.buffers.setIfInBounds other.index buffer)
    (apart : other ≠ slot) : after.contents slot = pool.contents slot := by
  have different : other.index ≠ slot.index := by
    intro same
    cases other
    cases slot
    exact apart (congrArg Slot.mk same)
  rw [contents, contents, buffer?, buffer?, loaded,
    Vector.getElem?_setIfInBounds_ne different]

theorem contents_loaded {buffer : Buffer size} (inside : slot.index < slots)
    (loaded : after.buffers = pool.buffers.setIfInBounds slot.index buffer) :
    after.contents slot = buffer.contents := by
  rw [contents, buffer?, loaded, Vector.getElem?_setIfInBounds_self_of_lt inside]
  rfl

end Pool

namespace Link

variable {slots size : Nat} {link after : Link slots size} {id : TaskId} {slot : Slot}
  {point : InterruptPoint} {turn : InterruptTurn slots size}

theorem InterruptTurns.contents_elsewhere (turns : InterruptTurns link id point turn)
    (elsewhere : point.copies? ≠ some slot) :
    turn.Leaves fun after => after.pool.contents slot = link.pool.contents slot := by
  have ends {middle : Link slots size} {other : Slot} {copied : Except (Error BusFault) Bool}
      (ended : CopyEnding middle other copied turn)
      (kept : middle.pool.contents slot = link.pool.contents slot) :
      turn.Leaves fun after => after.pool.contents slot = link.pool.contents slot :=
    ended.sameBytes.mono fun after same => (same.contents slot).trans kept
  have apart {other : Slot} (copies : point.copies? = some other) : other ≠ slot := by
    rintro rfl
    exact elsewhere copies
  cases turns with
  | wait => trivial
  | event fed => exact fed.sameBytes.mono fun after same => same.contents slot
  | cleared performed fed => exact fed.sameBytes.mono fun after same => same.contents slot
  | lengthFailed performed ended => exact ends ended rfl
  | tooLong free refused ended => exact ends ended rfl
  | bufferLock => exact Pool.contents_elsewhere rfl (apart rfl)
  | frameFailed performed ended => exact ends ended rfl
  | unbuffered performed missing ended => exact ends ended rfl
  | refused performed found foreign ended =>
      exact ends ended (Pool.contents_elsewhere rfl (apart rfl))
  | accepted performed found decoded ended =>
      exact ends ended (Pool.contents_elsewhere rfl (apart rfl))
  | handover => exact (Pool.sameBytes_release link.pool _).contents slot
  | _ => rfl

/-- A copy whose frame is accepted has read it in this very step, leaves its payload in
the buffer and finishes the transaction. -/
theorem InterruptTurns.loads {length : Nat}
    (turns : InterruptTurns link id (.readFrame slot length) turn)
    (own : link.ClaimedAt id (.readFrame slot length))
    (accepts : link.accepts (.readFrame slot length) = true) :
    turn.Leaves fun after => ∃ bytes frame,
      (Register.receiveBuffer.readPart 0 length).perform link.bus = (.ok bytes, after.bus) ∧
        decodeFrame? bytes = some frame ∧ after.pool.contents slot = frame.payload ∧
        after.phase = .finished .completed ∧ after.completion = true := by
  obtain ⟨delivering, finds⟩ := accepts_iff.mp accepts
  simp only [finds?] at finds
  cases turns with
  | wait => trivial
  | frameFailed performed => rw [performed] at finds; cases finds
  | unbuffered performed missing =>
      obtain ⟨buffer, found, _⟩ := own.claimed
      have same : link.pool.buffer? slot = none := missing
      rw [same] at found
      cases found
  | refused performed found foreign =>
      rw [performed] at finds
      rw [own.contents_load found performed] at foreign
      have good := Option.some.inj finds
      rw [foreign] at good
      cases good
  | @accepted _ _ bytes bus buffer frame _ performed found decoded ended =>
      have whole := own.contents_load found performed
      rw [whole] at decoded
      have kept : (buffer.load bytes |>.advance (length - frame.payload.length)).contents =
          frame.payload := by
        rw [Buffer.contents_advance, whole, ← Register.readPart_length performed]
        exact decodeFrame?_payload decoded
      have inside : slot.index < slots := by
        by_cases inside : slot.index < slots
        · exact inside
        · have locked := own.locked
          rw [Vector.getElem?_eq_none (Nat.le_of_not_lt inside)] at locked
          cases locked
      have phase := ended.of_delivering delivering
      refine (ended.sparesBus.and (phase.and ended.sameBytes)).mono ?_
      rintro after ⟨spared, finished, same⟩
      refine ⟨bytes, frame, ?_, decoded, ?_, finished⟩
      · rw [spared.bus]
        exact performed
      · rw [same.contents slot]
        exact (Pool.contents_loaded inside rfl).trans kept

end Link

def InterruptPoint.length? : InterruptPoint → Option Nat
  | .bufferLock _ length | .readFrame _ length => some length
  | _ => none

theorem InterruptPoint.length?_of_slot? {point : InterruptPoint} (empty : point.slot? = none) :
    point.length? = none := by
  cases point with
  | bufferLock => cases empty
  | readFrame => cases empty
  | _ => rfl

namespace Link

variable {slots size : Nat} {link after : Link slots size} {id : TaskId} {slot : Slot}
  {point : InterruptPoint} {turn : InterruptTurn slots size}

theorem InterruptTurns.lengths {later : InterruptPoint} {length : Nat}
    (turns : InterruptTurns link id point (.next after later))
    (knows : later.length? = some length) :
    point.length? = some length ∨
      ∃ slot bytes, point = .readLength slot ∧
        after.bus.lastRead? Register.receiveInfo = some bytes ∧
        receivedLength (UInt64.ofNat (Bytes.fromLittleEndian bytes)) = length := by
  have feeds {middle : Link slots size} {events : List Event} {turn : InterruptTurn slots size}
      (fed : FeedingAll middle events turn) (goesOn : turn = .next after later) :
      later.length? = none := by
    induction fed with
    | nil => cases goesOn
    | last fed =>
        cases fed with
        | copying => cases goesOn; rfl
        | _ => cases goesOn
    | cons fed more ih => exact ih goesOn
  have ends {middle : Link slots size} {other : Slot} {copied : Except (Error BusFault) Bool}
      (ended : CopyEnding middle other copied (.next after later)) : later.length? = none := by
    cases ended
    rfl
  cases turns with
  | event fed => rw [feeds (.last fed) rfl] at knows; cases knows
  | cleared performed fed => rw [feeds fed rfl] at knows; cases knows
  | statusLock => cases knows
  | pending => cases knows
  | copyLock => cases knows
  | @length slot info bus performed =>
      obtain ⟨bytes, read, rfl⟩ := Register.read_ok performed
      cases knows
      exact .inr ⟨slot, bytes, rfl, RegisterOperation.readBytes_lastRead? read, rfl⟩
  | bufferLock => exact .inl knows
  | lengthFailed performed ended => rw [ends ended] at knows; cases knows
  | tooLong free refused ended => rw [ends ended] at knows; cases knows
  | frameFailed performed ended => rw [ends ended] at knows; cases knows
  | unbuffered performed missing ended => rw [ends ended] at knows; cases knows
  | refused performed found foreign ended => rw [ends ended] at knows; cases knows
  | accepted performed found decoded ended => rw [ends ended] at knows; cases knows

theorem slot?_onEvent {event : Event} {phase : Phase}
    (holds : (phase.onEvent event).1.slot? = some slot) : phase.slot? = some slot := by
  apply Option.mem_toList.mp
  rw [onEvent_slots event phase]
  exact List.mem_append_left _ (Option.mem_toList.mpr holds)

theorem InterruptTurns.phase_slot (turns : InterruptTurns link id point turn) :
    turn.Leaves fun after => after.phase.slot? = some slot → link.phase.slot? = some slot := by
  cases copies : point.copies? with
  | none =>
      exact InterruptTurns.keeps
        (fun phase => phase.slot? = some slot → link.phase.slot? = some slot)
        (fun event phase held holds => held (slot?_onEvent holds)) turns copies
        fun holds => holds
  | some own =>
      rcases turns.copying copies with rfl | ⟨next, later, rfl, _, agrees⟩ |
        ⟨middle, copied, agrees, ended⟩
      · trivial
      · exact fun holds => agrees.phase ▸ holds
      · by_cases delivering : middle.phase = .delivering
        · refine (ended.of_delivering delivering).mono fun after finished holds => ?_
          rw [finished.1] at holds
          cases holds
        · by_cases abandoned : middle.phase = .abandoned none
          · refine (ended.of_abandoned abandoned).mono fun after idle holds => ?_
            rw [idle] at holds
            cases holds
          · rw [ended.stale_eq delivering abandoned]
            exact fun holds => agrees.phase ▸ holds

theorem FeedingAll.copies {events : List Event} {later : InterruptPoint}
    (fed : FeedingAll link events turn) (goesOn : turn = .next after later)
    (copies : later.copies? = some slot) : link.phase.slot? = some slot := by
  have feeds {link : Link slots size} {event : Event} {turn : InterruptTurn slots size}
      (fed : Feeding link event turn) (goesOn : turn = .next after later) :
      link.phase.slot? = some slot := by
    cases fed with
    | @copying phase flags own moved =>
        cases goesOn
        cases copies
        apply Option.mem_toList.mp
        rw [onEvent_slots event link.phase, moved]
        exact List.mem_append_right _ List.mem_cons_self
    | _ => cases goesOn
  induction fed with
  | nil => cases goesOn
  | last fed => exact feeds fed goesOn
  | @cons link first next events turn fed more ih =>
      have before : next.phase.slot? = some slot → link.phase.slot? = some slot :=
        (FeedingAll.last fed).keeps
          (fun phase => phase.slot? = some slot → link.phase.slot? = some slot)
          (fun event phase held holds => held (slot?_onEvent holds)) fun holds => holds
      exact before (ih goesOn)

theorem InterruptTurns.copies {later : InterruptPoint}
    (turns : InterruptTurns link id point (.next after later))
    (copies : later.copies? = some slot) :
    point.copies? = some slot ∨ link.phase.slot? = some slot := by
  have ends {middle : Link slots size} {other : Slot} {copied : Except (Error BusFault) Bool}
      (ended : CopyEnding middle other copied (.next after later)) : later.copies? = none := by
    cases ended
    rfl
  cases turns with
  | event fed => exact .inr ((FeedingAll.last fed).copies rfl copies)
  | cleared performed fed => exact .inr (fed.copies rfl copies)
  | statusLock => cases copies
  | pending => cases copies
  | copyLock => exact .inl copies
  | length => exact .inl copies
  | bufferLock => exact .inl copies
  | lengthFailed performed ended => rw [ends ended] at copies; cases copies
  | tooLong free refused ended => rw [ends ended] at copies; cases copies
  | frameFailed performed ended => rw [ends ended] at copies; cases copies
  | unbuffered performed missing ended => rw [ends ended] at copies; cases copies
  | refused performed found foreign ended => rw [ends ended] at copies; cases copies
  | accepted performed found decoded ended => rw [ends ended] at copies; cases copies

theorem InterruptTurns.hands {later : InterruptPoint}
    (turns : InterruptTurns link id point (.next after later)) (own : link.ClaimedAt id point)
    (hands : later = .handover slot) :
    link.accepts point = true ∧ point.copies? = some slot := by
  subst hands
  cases copies : point.copies? with
  | none =>
      have feeds {middle : Link slots size} {events : List Event}
          (fed : FeedingAll middle events (.next after (.handover slot))) : False := by
        have silent := fed.hands_nothing
        cases silent
      cases turns with
      | event fed => exact (feeds (.last fed)).elim
      | cleared performed fed => exact (feeds fed).elim
      | lengthFailed => cases copies
      | tooLong => cases copies
      | frameFailed => cases copies
      | unbuffered => cases copies
      | refused => cases copies
      | accepted => cases copies
  | some other =>
      rcases turns.copy_goes copies own with waits | ⟨_, _, same, goesOn, _⟩ |
        ⟨middle, _, ⟨accepts, goes⟩ | ⟨_, _, _, same, _⟩⟩
      · cases waits
      · cases same
        cases goesOn
      · cases goes
        exact ⟨accepts, rfl⟩
      · cases same

theorem CopyEnding.delivered {copied : Except (Error BusFault) Bool}
    (ended : CopyEnding link slot copied turn) :
    turn.Leaves fun after => after.delivered = link.delivered := by
  have spared := sparesHandler_finishCopy link (copyOutcome copied)
  cases ended with
  | stale other => rw [other] at spared; exact spared.delivered
  | handover current => rw [current] at spared; exact spared.delivered
  | @queued next current =>
      rw [current] at spared
      exact (next.signal.enqueue_offers slot).2.1.trans spared.delivered
  | dropped current => rw [current] at spared; exact spared.delivered

def handing? (link : Link slots size) : InterruptPoint → Option Bytes
  | .handover slot => some (link.pool.contents slot)
  | _ => none

theorem InterruptTurns.delivers (turns : InterruptTurns link id point turn) :
    turn.Leaves fun after => after.delivered = (link.handing? point).toList ++ link.delivered := by
  cases turns with
  | wait => trivial
  | event fed => exact (FeedingAll.last fed).sparesHandler.mono fun after spared => spared.delivered
  | cleared performed fed => exact fed.sparesHandler.mono fun after spared => spared.delivered
  | lengthFailed performed ended => exact ended.delivered
  | tooLong free refused ended => exact ended.delivered
  | frameFailed performed ended => exact ended.delivered
  | unbuffered performed missing ended => exact ended.delivered
  | refused performed found foreign ended => exact ended.delivered
  | accepted performed found decoded ended => exact ended.delivered
  | _ => rfl

theorem CallerTurns.phase_slot {exchange : Exchange} {at_ : CallerPoint}
    {turn : CallerTurn slots size} (turns : CallerTurns link id exchange at_ turn) :
    turn.Leaves fun after => after.phase.slot? = some slot →
      link.phase.slot? = some slot ∨ link.pool.isOwned slot.index = false := by
  have entered : (link.entered id).phase.slot? = none := by
    rw [entered_phase]
    rfl
  have prepares {middle : Link slots size} (prepared : Preparation middle exchange turn)
      (kept : middle.phase.slot? = some slot → link.phase.slot? = some slot) :
      turn.Leaves fun after => after.phase.slot? = some slot →
        link.phase.slot? = some slot ∨ link.pool.isOwned slot.index = false := by
    cases prepared with
    | receive => exact fun holds => .inl (kept holds)
    | refused => exact fun holds => .inl (kept holds)
    | reserve => exact fun holds => .inl (kept holds)
    | begin => intro holds; cases holds
  have failed (bus : Bus) (error : Error BusFault)
      (holds : ({ link with bus }.failed error exchange.counted).phase.slot? = some slot) :
      link.phase.slot? = some slot := by
    rcases failed_phase { link with bus } error exchange.counted with idle | abandoned
    · rw [idle] at holds; cases holds
    · rw [abandoned] at holds; exact holds
  have taken (link : Link slots size) (outcome : Outcome)
      (holds : ({ link with completion := false, phase := .idle }.conclude outcome
        exchange.counted).2.phase.slot? = some slot) : False := by
    rw [conclude_phase] at holds
    cases holds
  cases turns with
  | wait => trivial
  | silence => intro holds; rw [entered] at holds; cases holds
  | enter free settled prepared =>
      exact prepares prepared fun holds => by rw [entered] at holds; cases holds
  | silenced performed prepared => exact prepares prepared fun holds => holds
  | @begin frame deadline own pool reserved =>
      intro holds
      have same : own = slot := by
        have phase := slot?_initialPhase exchange own
        exact Option.some.inj (phase.symm.trans holds)
      exact .inr (same ▸ (Pool.reserve_reserves reserved).free)
  | startFailed => exact fun holds => .inl (failed _ _ holds)
  | checkFailed => exact fun holds => .inl (failed _ _ holds)
  | cancelFailed => exact fun holds => .inl (failed _ _ holds)
  | cancelled => exact fun holds => .inl (failed _ _ holds)
  | finished => exact fun holds => (taken _ _ holds).elim
  | abandoned =>
      intro holds
      have phase := conclude_phase link.abandon.2 link.abandon.1 exchange.counted
      have held : link.abandon.2.phase.slot? = some slot := phase ▸ holds
      rcases abandon_phase link with idle | abandoned
      · rw [idle] at held; cases held
      · rw [abandoned] at held; exact .inl held
  | _ => exact fun holds => .inl holds

end Link

end UwbRadio

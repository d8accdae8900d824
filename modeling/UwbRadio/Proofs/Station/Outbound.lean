import UwbRadio.Proofs.Station.OnAir
import UwbRadio.Proofs.Station.Poll

/-!
Packets from a source. A source may hand over as many bytes as a whole frame has, of which
fifteen are for the header, the tag and the check sequence; so a packet that the source could
hand over may still be too long to be sent. It has then left the source, and is refused where
its frame would be made.
-/

namespace UwbRadio

def Packet.request (packet : Packet) (mode : Mode) (destination : Option UInt16) : Request :=
  { (Request.ofPayload packet.payload).withMode mode with destination }

theorem Packet.payload_length {packet : Packet} (fits : packet.claimed ≤ Packet.capacity) :
    packet.payload.length = packet.claimed := by
  rw [payload, List.length_take, List.length_append, List.length_take, List.length_replicate]
  omega

namespace Station

variable {slots size capacity : Nat} {station after : Station slots size capacity} {id : TaskId}

theorem takes_packet {destination : Option UInt16} {packet : Packet} {rest : List Packet}
    (found : station.task? id = some (.outbound destination))
    (queued : station.outbound = packet :: rest) (fits : packet.claimed ≤ Packet.capacity) :
    ∃ taken, station.step? id = some taken ∧ taken.outbound = rest ∧
      taken.link = station.link ∧ taken.task? id =
        some (.send (packet.request station.link.controlMode destination)) := by
  have turned : station.turn id (.outbound destination) =
      .next { station with outbound := rest }
        (.send (packet.request station.link.controlMode destination)) := by
    rw [turn, takePacket, queued]
    exact if_neg (Nat.not_lt_of_le fits)
  have stepped : station.step? id = some ({ station with outbound := rest }.replaceTask id
      (.send (packet.request station.link.controlMode destination))) := by
    simp only [step?, found, turned]
  exact ⟨_, stepped, rfl, rfl, task?_replaceTask_self found _⟩

/-- A packet that fits what the source was offered leaves the source, and from then on every
run decides about it where the frame is made: if it is short enough for a link frame it is sent
on its way, else the call fails for its size, and nothing of the packet has been written. There
is no other way to fail for its size. -/
theorem packet_refused_iff_too_long {opened before : Station slots size capacity}
    {rule : Rule slots size capacity} {earlier : List (Move capacity)}
    {destination : Option UInt16} {packet : Packet} {rest : List Packet} (fresh : opened.Fresh)
    (reached : run? rule earlier opened = some before)
    (found : before.task? id = some (.outbound destination))
    (queued : before.outbound = packet :: rest) (fits : packet.claimed ≤ Packet.capacity) :
    let request := packet.request before.link.controlMode destination
    ∃ taken, before.step? id = some taken ∧ taken.outbound = rest ∧
      taken.link = before.link ∧ taken.task? id = some (.send request) ∧
      ∀ (allowing : Rule slots size capacity) (moves : List (Move capacity))
        (station : Station slots size capacity) (point : CallerPoint),
        run? allowing moves taken = some station →
        station.task? id = some (.exchange (.send request) point) →
          (∀ required,
            station.returns? id = some (.send request, .error (.bufferTooSmall required)) ↔
              station.link.MakesFrame point ∧ maxPayloadLength < packet.claimed ∧
                required = packet.claimed + 15) ∧
          (station.link.MakesFrame point → packet.claimed ≤ maxPayloadLength →
            ∃ after frame, station.step? id = some after ∧
              after.task? id =
                some (.exchange (.send request) (.startLock frame request.mode.deadline)) ∧
              request.Encodes station.link.info station.link.sequence frame) ∧
          (maxPayloadLength < packet.claimed → station.Refused id request point) := by
  intro request
  obtain ⟨taken, takes, left, same, asks⟩ := takes_packet found queued fits
  refine ⟨taken, takes, left, same, asks, ?_⟩
  intro allowing moves station point ran sends
  have length : request.payload.length = packet.claimed := Packet.payload_length fits
  have calls : station.call? id = some (.send request, point) := call?_of_task sends
  refine ⟨?_, ?_, ?_⟩
  · intro required
    constructor
    · intro returns
      rw [returns?, calls, Option.bind_some] at returns
      split at returns
      · rename_i after result stepped
        cases returns
        have makes := Link.makesFrame_of_refused stepped
        have tooLong : maxPayloadLength < packet.claimed := by
          refine Nat.lt_of_not_ge fun short => ?_
          obtain ⟨_, _, _, goesOn⟩ := makes.begins id (length ▸ short) rfl
          rw [goesOn] at stepped
          cases stepped
        obtain ⟨_, refused⟩ := makes.refuses id (length ▸ tooLong)
        rw [refused, length] at stepped
        cases stepped
        exact ⟨makes, tooLong, rfl⟩
      · cases returns
    · rintro ⟨makes, tooLong, rfl⟩
      obtain ⟨_, refused⟩ := makes.refuses id (length ▸ tooLong)
      rw [length] at refused
      exact returns?_of_done calls refused
  · intro makes short
    obtain ⟨link, frame, encodes, goesOn⟩ := makes.begins id (length ▸ short) rfl
    have stepped := goesBy_caller id (.send request) station point sends
    dsimp only at stepped
    rw [goesOn] at stepped
    exact ⟨_, frame, stepped, task?_replaceTask_self sends _, encodes⟩
  · intro tooLong
    have taking : before.move? (.step id) = some taken := takes
    have framing := (((framing_of_fresh fresh).run reached).1.move taking).run ran
    exact framing.1.refuses calls (length ▸ tooLong)

def takesZeros (count : Nat) : List (Move 0) :=
  [.offer ⟨List.replicate count 0, count⟩, .submit 1 (.outbound (some 3))]

theorem longest_packet_is_sent :
    ∃ opened before taken after : Station 2 127 0, ∃ frame,
      opened.Fresh ∧ run? dropsNothing (takesZeros 112) opened = some before ∧
      before.task? 1 = some (.outbound (some 3)) ∧
      before.outbound = [⟨List.replicate 112 0, 112⟩] ∧ 112 ≤ Packet.capacity ∧
      before.step? 1 = some taken ∧ taken.step? 1 = some after ∧
      after.call? 1 = some
        (.send (Packet.request ⟨List.replicate 112 0, 112⟩ before.link.controlMode (some 3)),
          .startLock frame before.link.controlMode.deadline) := by
  have evaluated : (do
      let opened : Station 2 127 0 ← open? Device.unused {} .transfer
      let before ← run? dropsNothing (takesZeros 112) opened
      return (before.task? 1, before.outbound, before.link.gate.isFree,
        before.link.phase.unfinished)) =
      some (some (.outbound (some 3)), [⟨List.replicate 112 0, 112⟩], true, false) := by
    cbv
  obtain ⟨opened, isOpen, evaluated⟩ := Option.bind_eq_some_iff.mp evaluated
  obtain ⟨before, ran, evaluated⟩ := Option.bind_eq_some_iff.mp evaluated
  have seen := Option.some.inj evaluated
  simp only [Prod.mk.injEq] at seen
  obtain ⟨found, queued, free, settled⟩ := seen
  have fresh := fresh_of_open? isOpen
  obtain ⟨taken, takes, _, same, sends, decides⟩ :=
    packet_refused_iff_too_long fresh ran found queued (by decide)
  have makes : taken.link.MakesFrame .gate := by
    rw [same]
    exact ⟨free, settled⟩
  obtain ⟨after, frame, begins, goesOn, _⟩ :=
    (decides dropsNothing [] taken .gate rfl sends).2.1 makes (by decide)
  exact ⟨opened, before, taken, after, frame, fresh, ran, found, queued, by decide, takes, begins,
    call?_of_task goesOn⟩

/-- One byte more has left the source as well, and is refused: it takes a frame of 128 bytes. -/
theorem offered_packet_is_refused :
    ∃ opened before taken after : Station 2 127 0,
      opened.Fresh ∧ run? dropsNothing (takesZeros 113) opened = some before ∧
      before.outbound = [⟨List.replicate 113 0, 113⟩] ∧ 113 ≤ Packet.capacity ∧
      before.step? 1 = some taken ∧ taken.outbound = [] ∧ taken.step? 1 = some after ∧
      after.finished = [(1, 0, .exchanged (.error (.bufferTooSmall 128)))] ∧
      after.link.sequence = 0 ∧ after.link.bus.trace = before.link.bus.trace := by
  have evaluated : (do
      let opened : Station 2 127 0 ← open? Device.unused {} .transfer
      let before ← run? dropsNothing (takesZeros 113) opened
      let taken ← before.step? 1
      let after ← taken.step? 1
      return (before.outbound, taken.outbound, after.finished, after.link.sequence,
        decide (after.link.bus.trace = before.link.bus.trace))) =
      some ([⟨List.replicate 113 0, 113⟩], [],
        [(1, 0, .exchanged (.error (.bufferTooSmall 128)))], 0, true) := by
    cbv
  obtain ⟨opened, isOpen, evaluated⟩ := Option.bind_eq_some_iff.mp evaluated
  obtain ⟨before, ran, evaluated⟩ := Option.bind_eq_some_iff.mp evaluated
  obtain ⟨taken, takes, evaluated⟩ := Option.bind_eq_some_iff.mp evaluated
  obtain ⟨after, ends, evaluated⟩ := Option.bind_eq_some_iff.mp evaluated
  have seen := Option.some.inj evaluated
  simp only [Prod.mk.injEq, decide_eq_true_eq] at seen
  obtain ⟨queued, left, finished, sequence, silent⟩ := seen
  exact ⟨opened, before, taken, after, fresh_of_open? isOpen, ran, queued, by decide, takes, left,
    ends, finished, sequence, silent⟩

end Station

end UwbRadio

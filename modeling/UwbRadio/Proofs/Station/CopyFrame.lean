import UwbRadio.Proofs.Link.CopyFrame
import UwbRadio.Proofs.Station.Queue
import UwbRadio.Proofs.Station.Request

/-!
The copies of a station whose bus is healthy. A copy that has the registers keeps them
until it returns, and has its buffer to itself, so that whatever else goes on it does not
have to wait. It returns whether the frame that the device had for it fits its buffer and
is one for the link, and then leaves just the payload there.
-/

namespace UwbRadio

namespace Station

variable {slots size capacity : Nat} {station after : Station slots size capacity} {id : TaskId}
  {slot : Slot} {point : InterruptPoint} {bytes : Bytes}

/-- The bus stays healthy and the device keeps the frame that it has received. The name of
the copy is not given away. -/
def keepsFrame (copy : TaskId) : Rule slots size capacity
  | station, .disturb change =>
      let bus := change.alter station.link.bus
      decide bus.Healthy && Link.received bus == Link.received station.link.bus
  | _, move => !move.names copy

theorem unnamed_of_keepsFrame {move : Move capacity}
    (allowed : keepsFrame id station move = true) : move.names id = false := by
  cases move with
  | disturb => rfl
  | _ => exact Bool.not_eq_true' _ ▸ allowed

theorem Spared.keepsFrame {move : Move capacity} (spared : station.Spared after move)
    (allowed : Station.keepsFrame id station move = true) (healthy : station.link.bus.Healthy) :
    after.link.bus.Healthy ∧ Link.received after.link.bus = Link.received station.link.bus := by
  rcases spared with same | ⟨change, rfl, altered⟩
  · rw [same]
    exact ⟨healthy, rfl⟩
  · obtain ⟨well, kept⟩ := Bool.and_eq_true_iff.mp allowed
    rw [altered]
    exact ⟨of_decide_eq_true well, eq_of_beq kept⟩

/-- What every run keeps of the copies: each has its buffer in its hands, and holds the
registers and the bytes of the buffer where it needs them. -/
structure CopiesGuarded (station : Station slots size capacity) : Prop where
  sound : station.Sound
  claiming : station.Claiming
  holding : station.Holding

theorem CopiesGuarded.move {move : Move capacity} (guarded : station.CopiesGuarded)
    (moved : station.move? move = some after) : after.CopiesGuarded where
  sound := guarded.sound.move moved
  claiming := guarded.claiming.move moved
  holding := guarded.holding.move guarded.sound.orderly moved

/-- The task copies this frame over a healthy bus, or has done so. -/
structure Copying (station : Station slots size capacity) (id : TaskId) (slot : Slot)
    (bytes : Bytes) : Prop extends station.CopiesGuarded where
  stands : ∀ task, station.task? id = some task → task = .interrupt (.handover slot) ∨
    ∃ point, task = .interrupt point ∧ point.Reads slot bytes.length ∧
      station.link.bus.Healthy ∧ Link.received station.link.bus = bytes

theorem Copying.move {move : Move capacity} (copying : station.Copying id slot bytes)
    (allowed : keepsFrame id station move = true) (moved : station.move? move = some after) :
    after.Copying id slot bytes := by
  refine ⟨copying.toCopiesGuarded.move moved, ?_⟩
  intro task found
  cases copying.sound.orderly.comesFrom moved found with
  | name names =>
      rw [unnamed_of_keepsFrame allowed] at names
      cases names
  | step mine before effect =>
      rcases copying.stands _ before with rfl | ⟨point, rfl, reads, healthy, same⟩
      · obtain ⟨later, rfl, turns⟩ := effect.goes_on
        cases turns
      · obtain ⟨later, rfl, turns⟩ := effect.goes_on
        obtain ⟨reads | rfl, bus⟩ := turns.reads_on reads healthy same
        · exact .inr ⟨later, rfl, reads, bus⟩
        · exact .inl rfl
  | stay unmoved before =>
      rcases copying.stands task before with rfl | ⟨point, rfl, reads, healthy, same⟩
      · exact .inl rfl
      · have needs : Guard.registers.needs (.interrupt point) = true := by cases reads <;> rfl
        obtain ⟨well, kept⟩ :=
          (copying.holding.spared copying.sound.orderly moved unmoved before needs).keepsFrame
            allowed healthy
        exact .inr ⟨point, rfl, reads, well, kept.trans same⟩

end Station

end UwbRadio

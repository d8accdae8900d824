import UwbRadio.Link.Basic

/-!
Small facts about the pieces of a link: what carrying out an operation returns, and
which fields a piece leaves as they were.
-/

namespace UwbRadio

namespace Turn

variable {state point result : Type}

theorem next_ne_wait {after : state} {later : point} :
    (next after later : Turn state point result) ≠ wait := by
  intro same
  cases same

theorem done_ne_wait {after : state} {outcome : result} :
    (done after outcome : Turn state point result) ≠ wait := by
  intro same
  cases same

def Leaves (holds : state → Prop) : Turn state point result → Prop
  | .wait => True
  | .next after _ | .done after _ => holds after

theorem Leaves.mono {holds other : state → Prop} {turn : Turn state point result}
    (leaves : turn.Leaves holds) (implies : ∀ after, holds after → other after) :
    turn.Leaves other := by
  cases turn with
  | wait => trivial
  | next after later => exact implies after leaves
  | done after result => exact implies after leaves

theorem Leaves.and {holds other : state → Prop} {turn : Turn state point result}
    (first : turn.Leaves holds) (second : turn.Leaves other) :
    turn.Leaves fun after => holds after ∧ other after := by
  cases turn with
  | wait => trivial
  | next after later => exact ⟨first, second⟩
  | done after result => exact ⟨first, second⟩

def after? : Turn state point result → Option state
  | .wait => none
  | .next after _ | .done after _ => some after

theorem Leaves.holds {holds : state → Prop} {turn : Turn state point result} {after : state}
    (leaves : turn.Leaves holds) (reached : turn.after? = some after) : holds after := by
  cases turn with
  | wait => cases reached
  | next later => cases reached; exact leaves
  | done later => cases reached; exact leaves

end Turn

theorem mapError_ok {value fault other : Type} (change : fault → other) (result : value) :
    (Except.ok result : Except fault value).mapError change = .ok result :=
  rfl

namespace Link

variable {slots size : Nat}

theorem perform_eq {α : Type} (link : Link slots size) (operation : RegisterOperation α) :
    link.perform operation =
      ((operation.perform link.bus).1.mapError Error.bus,
        { link with bus := (operation.perform link.bus).2 }) :=
  rfl

section releaseSlot?

variable (link : Link slots size) (slot : Option Slot)

@[simp] theorem releaseSlot?_bus : (link.releaseSlot? slot).bus = link.bus := by
  cases slot <;> rfl

@[simp] theorem releaseSlot?_gate : (link.releaseSlot? slot).gate = link.gate := by
  cases slot <;> rfl

@[simp] theorem releaseSlot?_phase : (link.releaseSlot? slot).phase = link.phase := by
  cases slot <;> rfl

@[simp] theorem releaseSlot?_status : (link.releaseSlot? slot).status = link.status := by
  cases slot <;> rfl

@[simp] theorem releaseSlot?_sequence : (link.releaseSlot? slot).sequence = link.sequence := by
  cases slot <;> rfl

@[simp] theorem releaseSlot?_info : (link.releaseSlot? slot).info = link.info := by
  cases slot <;> rfl

end releaseSlot?

end Link

end UwbRadio

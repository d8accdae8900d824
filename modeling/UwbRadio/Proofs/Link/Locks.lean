import UwbRadio.Proofs.Link.Gate
import UwbRadio.Proofs.Link.Reading

/-!
Who holds the locks. A task takes a lock when it comes to a point that needs the lock,
and frees it when it leaves such a point, at the latest with its end. So a lock is held
by a task that stands at a point that needs it, or it is free.
-/

namespace UwbRadio

namespace Lock

/-- What a step of the task `self` does to a lock. `before` and `later` say whether the
task needs the lock at its point, before the step and after it. -/
inductive Passes (self : TaskId) (lock : Lock) (before : Bool) : Lock → Bool → Prop
  | kept : Passes self lock before lock before
  | taken (free : lock.isFree = true) : Passes self lock before (heldBy self) true
  | freed : Passes self lock before Lock.free false

theorem Passes.of_eq {self : TaskId} {lock after : Lock} {before later : Bool}
    (same : after = lock) (stays : later = before) : lock.Passes self before after later := by
  subst same
  subst stays
  exact .kept

theorem Passes.holder {self owner : TaskId} {lock after : Lock} {before later : Bool}
    (passes : lock.Passes self before after later) (holds : after.holder = some owner)
    (needed : lock.holder = some self → before = true) :
    (owner = self ∧ later = true) ∨ (owner ≠ self ∧ lock.holder = some owner) := by
  cases passes with
  | kept =>
      by_cases same : owner = self
      · subst same
        exact .inl ⟨rfl, needed holds⟩
      · exact .inr ⟨same, holds⟩
  | taken => exact .inl ⟨(Option.some.inj holds).symm, rfl⟩
  | freed => cases holds

theorem eq_free {lock : Lock} (none : ∀ id, lock.holder ≠ some id) : lock = Lock.free := by
  obtain ⟨holder⟩ := lock
  cases holder with
  | none => rfl
  | some id => exact absurd rfl (none id)

theorem without_holder {lock : Lock} {id owner : TaskId}
    (holds : (lock.without id).holder = some owner) :
    owner ≠ id ∧ lock.holder = some owner := by
  unfold without at holds
  split at holds
  · cases holds
  · rename_i other
    refine ⟨?_, holds⟩
    rintro rfl
    exact other holds

end Lock

/-- What a step does to a lock that the points in `needs` need. -/
def Turn.Passes {state point result : Type} (lock : state → Lock) (needs : point → Bool)
    (self : TaskId) (before : state) (at_ : point) : Turn state point result → Prop
  | .wait => True
  | .next after later => (lock before).Passes self (needs at_) (lock after) (needs later)
  | .done after _ => (lock before).Passes self (needs at_) (lock after) false

theorem Turn.passes_of_leaves {state point result : Type} {lock : state → Lock} {self : TaskId}
    {before : state} {at_ : point} {turn : Turn state point result}
    (same : turn.Leaves fun after => lock after = lock before) :
    turn.Passes lock (fun _ => false) self before at_ := by
  cases turn with
  | wait => trivial
  | next after later => exact .of_eq same rfl
  | done after result => exact .of_eq same rfl

namespace CallerPoint

def holdsRegisters : CallerPoint → Bool
  | .silencing _ | .starting _ _ | .checking _ | .cancelling _ => true
  | .gate | .silenceLock | .reserving _ _ | .startLock _ _ | .waiting _ => false

def holdsGate : CallerPoint → Bool
  | .gate => false
  | _ => true

end CallerPoint

namespace InterruptPoint

def holdsRegisters : InterruptPoint → Bool
  | .readStatus | .clearStatus _ | .readLength _ | .bufferLock _ _ | .readFrame _ _ => true
  | .event _ | .statusLock | .copyLock _ | .handover _ => false

def holdsBuffer (index : Nat) : InterruptPoint → Bool
  | .readFrame slot _ => slot.index == index
  | _ => false

end InterruptPoint

def Pool.lockOf {slots size : Nat} (pool : Pool slots size) (index : Nat) : Lock :=
  pool.locks[index]?.getD Lock.free

namespace Pool

variable {slots size : Nat} {pool after : Pool slots size} {slot : Slot}

theorem SameBytes.lockOf (same : pool.SameBytes after) (index : Nat) :
    after.lockOf index = pool.lockOf index := by
  rw [Pool.lockOf, Pool.lockOf, same.locks]

theorem lockOf_setLock (inside : slot.index < slots) (lock : Lock) (index : Nat) :
    (pool.setLock slot lock).lockOf index =
      if slot.index = index then lock else pool.lockOf index := by
  rw [lockOf, setLock, lockOf]
  split
  · rename_i same
    subst same
    rw [Vector.getElem?_setIfInBounds_self_of_lt inside]
    rfl
  · rename_i apart
    rw [Vector.getElem?_setIfInBounds_ne apart]

theorem lockOf_setLock_free (pool : Pool slots size) (slot : Slot) (index : Nat) :
    (pool.setLock slot Lock.free).lockOf index =
      if slot.index = index then Lock.free else pool.lockOf index := by
  by_cases inside : slot.index < slots
  · exact lockOf_setLock inside _ index
  · rw [lockOf, setLock, lockOf]
    split
    · rename_i same
      simp [← same, inside]
    · rename_i apart
      rw [Vector.getElem?_setIfInBounds_ne apart]

theorem accessible_iff : pool.accessible slot = true ↔
    slot.index < slots ∧ (pool.lockOf slot.index).isFree = true := by
  rw [accessible, lockOf]
  by_cases inside : slot.index < slots
  · simp [inside]
  · simp [inside]

theorem lockOf_without (pool : Pool slots size) (id : TaskId) (index : Nat) :
    (pool.without id).lockOf index = (pool.lockOf index).without id := by
  rw [lockOf, lockOf, without]
  by_cases inside : index < slots
  · simp [inside]
  · simp [inside, Lock.without, Lock.free]

end Pool

namespace Link

variable {slots size : Nat} {link : Link slots size} {id : TaskId}

@[simp] theorem releaseSlot?_registers (link : Link slots size) (slot : Option Slot) :
    (link.releaseSlot? slot).registers = link.registers := by
  cases slot <;> rfl

@[simp] theorem entered_registers (link : Link slots size) (id : TaskId) :
    (link.entered id).registers = link.registers := by
  simp [entered, discardPhase]

@[simp] theorem failed_registers (link : Link slots size) (error : Error BusFault)
    (counted : Bool) : (link.failed error counted).registers = Lock.free := by
  unfold failed abort
  cases error with
  | transmitFault => simp [releaseGate, releaseRegisters]
  | _ => rfl

@[simp] theorem conclude_registers (link : Link slots size) (outcome : Outcome)
    (counted : Bool) : (link.conclude outcome counted).2.registers = link.registers := by
  cases outcome <;> rfl

@[simp] theorem abandon_registers (link : Link slots size) :
    link.abandon.2.registers = link.registers := by
  unfold abandon
  split <;> rfl

theorem Preparation.registers {exchange : Exchange} {turn : CallerTurn slots size}
    (prepared : Preparation link exchange turn) :
    turn.Leaves (fun after => after.registers = link.registers) ∧
      ∀ after later, turn = .next after later → later.holdsRegisters = false := by
  cases prepared with
  | refused =>
      refine ⟨rfl, ?_⟩
      intro after later goesOn
      cases goesOn
  | _ =>
      refine ⟨rfl, ?_⟩
      intro after later goesOn
      cases goesOn
      rfl

theorem CallerTurns.registers {exchange : Exchange} {point : CallerPoint}
    {turn : CallerTurn slots size} (turns : CallerTurns link id exchange point turn) :
    turn.Passes Link.registers CallerPoint.holdsRegisters id link point := by
  have prepares {middle : Link slots size} {turn : CallerTurn slots size}
      (prepared : Preparation middle exchange turn)
      (begins : ∀ after : Link slots size, after.registers = middle.registers →
        link.registers.Passes id point.holdsRegisters after.registers false) :
      turn.Passes Link.registers CallerPoint.holdsRegisters id link point := by
    obtain ⟨same, needless⟩ := prepared.registers
    cases turn with
    | wait => trivial
    | next after later =>
        have passes := begins after same
        rw [← needless after later rfl] at passes
        exact passes
    | done after result => exact begins after same
  cases turns with
  | wait => trivial
  | silence => exact .of_eq (entered_registers link id) rfl
  | enter free settled prepared =>
      exact prepares prepared fun after same => .of_eq (same.trans (entered_registers link id)) rfl
  | silenceLock free => exact .taken free
  | silenceFailed => exact .freed
  | silenced performed prepared =>
      refine prepares prepared fun after same => ?_
      rw [same]
      exact .freed
  | silencing => exact .kept
  | begin => exact .kept
  | starved => exact .kept
  | reserving => exact .kept
  | startLock free => exact .taken free
  | startFailed =>
      rw [Turn.Passes, failed_registers]
      exact .freed
  | startedSend => exact .kept
  | startedReceive => exact .freed
  | starting => exact .kept
  | checkFailed =>
      rw [Turn.Passes, failed_registers]
      exact .freed
  | started => exact .freed
  | late => exact .kept
  | cancelFailed =>
      rw [Turn.Passes, failed_registers]
      exact .freed
  | cancelled =>
      rw [Turn.Passes, failed_registers]
      exact .freed
  | cancelling => exact .kept
  | @finished deadline outcome =>
      exact .of_eq (conclude_registers { link with completion := false, phase := .idle } outcome _)
        rfl
  | woken => exact .kept
  | abandoned => exact .of_eq ((conclude_registers _ _ _).trans (abandon_registers link)) rfl
  | waiting => exact .kept

theorem Preparation.gate {exchange : Exchange} {turn : CallerTurn slots size}
    (prepared : Preparation link exchange turn) :
    (∃ after later, turn = .next after later ∧ after.gate = link.gate ∧ later.holdsGate = true) ∨
      ∃ after result, turn = .done after result ∧ after.gate = Lock.free := by
  cases prepared with
  | refused => exact .inr ⟨_, _, rfl, rfl⟩
  | _ => exact .inl ⟨_, _, rfl, rfl, rfl⟩

theorem CallerTurns.gate {exchange : Exchange} {point : CallerPoint}
    {turn : CallerTurn slots size} (turns : CallerTurns link id exchange point turn) :
    turn.Passes Link.gate CallerPoint.holdsGate id link point := by
  have entered : (link.entered id).gate = Lock.heldBy id := by simp [entered, discardPhase]
  cases turns with
  | wait => trivial
  | silence free =>
      rw [Turn.Passes, entered]
      exact .taken free
  | enter free settled prepared =>
      rcases prepared.gate with ⟨after, later, rfl, same, needs⟩ | ⟨after, result, rfl, freed⟩
      · rw [Turn.Passes, same, needs, entered]
        exact .taken free
      · rw [Turn.Passes, freed]
        exact .freed
  | silenced performed prepared =>
      rcases prepared.gate with ⟨after, later, rfl, same, needs⟩ | ⟨after, result, rfl, freed⟩
      · exact .of_eq same needs
      · rw [Turn.Passes, freed]
        exact .freed
  | silenceFailed => exact .freed
  | starved => exact .freed
  | startFailed => exact .freed
  | checkFailed => exact .freed
  | cancelFailed => exact .freed
  | cancelled => exact .freed
  | finished => exact .freed
  | abandoned => exact .freed
  | _ => exact .kept

/-- A point to which the event side comes by feeding in events or by the end of a copy
needs no lock. -/
def Unlocked : InterruptTurn slots size → Prop
  | .next _ later => later.holdsRegisters = false ∧ ∀ index, later.holdsBuffer index = false
  | _ => True

theorem FeedingAll.unlocked {events : List Event} {turn : InterruptTurn slots size}
    (fed : FeedingAll link events turn) : Unlocked turn := by
  induction fed with
  | nil => trivial
  | last fed =>
      cases fed with
      | copying => exact ⟨rfl, fun _ => rfl⟩
      | _ => trivial
  | cons fed later ih => exact ih

theorem CopyEnding.unlocked {slot : Slot} {copied : Except (Error BusFault) Bool}
    {turn : InterruptTurn slots size} (ended : CopyEnding link slot copied turn) :
    Unlocked turn := by
  cases ended with
  | handover => exact ⟨rfl, fun _ => rfl⟩
  | _ => trivial

/-- A step that ends, or comes to a point that needs no lock, leaves a lock as some link
on the way has it. -/
theorem passes_through {lock : Link slots size → Lock} {needs : InterruptPoint → Bool}
    {point : InterruptPoint} {turn : InterruptTurn slots size} (middle : Link slots size)
    (needless : ∀ after later, turn = .next after later → needs later = false)
    (same : turn.Leaves fun after => lock after = lock middle)
    (passes : (lock link).Passes id (needs point) (lock middle) false) :
    turn.Passes lock needs id link point := by
  cases turn with
  | wait => trivial
  | next after later =>
      have same : lock after = lock middle := same
      rw [Turn.Passes, needless after later rfl, same]
      exact passes
  | done after result =>
      have same : lock after = lock middle := same
      rw [Turn.Passes, same]
      exact passes

theorem InterruptTurns.registers {point : InterruptPoint} {turn : InterruptTurn slots size}
    (turns : InterruptTurns link id point turn) :
    turn.Passes Link.registers InterruptPoint.holdsRegisters id link point := by
  have fed {middle : Link slots size} {events : List Event}
      (fed : FeedingAll middle events turn)
      (passes : link.registers.Passes id point.holdsRegisters middle.registers false) :
      turn.Passes Link.registers InterruptPoint.holdsRegisters id link point :=
    passes_through middle (fun after later goesOn => (goesOn ▸ fed.unlocked).1)
      (fed.sparesBus.mono fun after spared => spared.registers) passes
  have ended {middle : Link slots size} {slot : Slot} {copied : Except (Error BusFault) Bool}
      (ended : CopyEnding middle slot copied turn) (freed : middle.registers = Lock.free) :
      turn.Passes Link.registers InterruptPoint.holdsRegisters id link point :=
    passes_through middle (fun after later goesOn => (goesOn ▸ ended.unlocked).1)
      (ended.sparesBus.mono fun after spared => spared.registers) (freed ▸ .freed)
  cases turns with
  | wait => trivial
  | event once => exact fed (.last once) .kept
  | statusLock free => exact .taken free
  | readFailed => exact .freed
  | nothingPending => exact .freed
  | pending => exact .kept
  | clearFailed => exact .freed
  | cleared performed all => exact fed all .freed
  | copyLock free => exact .taken free
  | lengthFailed performed ending => exact ended ending rfl
  | length => exact .kept
  | tooLong free refused ending => exact ended ending rfl
  | bufferLock => exact .kept
  | frameFailed performed ending => exact ended ending rfl
  | unbuffered performed missing ending => exact ended ending rfl
  | refused performed found foreign ending => exact ended ending rfl
  | accepted performed found decoded ending => exact ended ending rfl
  | handover => exact .kept

theorem InterruptTurns.buffers {point : InterruptPoint} {turn : InterruptTurn slots size}
    (turns : InterruptTurns link id point turn) (index : Nat) :
    turn.Passes (fun link => link.pool.lockOf index) (InterruptPoint.holdsBuffer index) id link
      point := by
  have fed {middle : Link slots size} {events : List Event}
      (fed : FeedingAll middle events turn) (pool : middle.pool = link.pool)
      (needless : point.holdsBuffer index = false) :
      turn.Passes (fun link => link.pool.lockOf index) (InterruptPoint.holdsBuffer index) id link
        point :=
    passes_through middle (fun after later goesOn => (goesOn ▸ fed.unlocked).2 index)
      (fed.sameBytes.mono fun after same => same.lockOf index)
      (.of_eq (congrArg (fun pool => Pool.lockOf pool index) pool) needless.symm)
  have ended {middle : Link slots size} {slot : Slot} {copied : Except (Error BusFault) Bool}
      (ended : CopyEnding middle slot copied turn)
      (passes : (link.pool.lockOf index).Passes id (point.holdsBuffer index)
        (middle.pool.lockOf index) false) :
      turn.Passes (fun link => link.pool.lockOf index) (InterruptPoint.holdsBuffer index) id link
        point :=
    passes_through middle (fun after later goesOn => (goesOn ▸ ended.unlocked).2 index)
      (ended.sameBytes.mono fun after same => same.lockOf index) passes
  have frees {slot : Slot} {length : Nat} :
      (link.pool.lockOf index).Passes id
        ((InterruptPoint.readFrame slot length).holdsBuffer index)
        ((link.pool.setLock slot Lock.free).lockOf index) false := by
    rw [Pool.lockOf_setLock_free, InterruptPoint.holdsBuffer]
    split
    · exact .freed
    · rename_i apart
      exact .of_eq rfl (beq_eq_false_iff_ne.mpr apart).symm
  cases turns with
  | wait => trivial
  | event once => exact fed (.last once) rfl rfl
  | cleared performed all => exact fed all rfl rfl
  | lengthFailed performed ending => exact ended ending .kept
  | tooLong free refused ending => exact ended ending .kept
  | @bufferLock slot length buffer free claimed =>
      obtain ⟨inside, free⟩ := Pool.accessible_iff.mp free
      have locked : ((link.pool.setBuffer slot buffer).setLock slot (Lock.heldBy id)).lockOf index =
          if slot.index = index then Lock.heldBy id else link.pool.lockOf index :=
        Pool.lockOf_setLock inside _ index
      rw [Turn.Passes, locked, InterruptPoint.holdsBuffer]
      split
      · rename_i same
        rw [← same, beq_self_eq_true]
        exact .taken free
      · rename_i apart
        rw [beq_eq_false_iff_ne.mpr apart]
        exact .kept
  | frameFailed performed ending => exact ended ending frees
  | unbuffered performed missing ending => exact ended ending frees
  | refused performed found foreign ending => exact ended ending frees
  | accepted performed found decoded ending => exact ended ending frees
  | @handover slot => exact .of_eq ((Pool.sameBytes_release link.pool slot).lockOf index) rfl
  | _ => exact .kept

end Link

inductive Guard
  | registers
  | gate
  | buffer (index : Nat)

namespace Guard

variable {slots size : Nat}

def lock (guard : Guard) (link : Link slots size) : Lock :=
  match guard with
  | .registers => link.registers
  | .gate => link.gate
  | .buffer index => link.pool.lockOf index

def callerNeeds : Guard → CallerPoint → Bool
  | .registers, point => point.holdsRegisters
  | .gate, point => point.holdsGate
  | .buffer _, _ => false

def eventNeeds : Guard → InterruptPoint → Bool
  | .registers, point => point.holdsRegisters
  | .gate, _ => false
  | .buffer index, point => point.holdsBuffer index

theorem lock_without (guard : Guard) (link : Link slots size) (id : TaskId) :
    guard.lock (link.without id) = (guard.lock link).without id := by
  cases guard with
  | registers => rfl
  | gate => rfl
  | buffer index => exact link.pool.lockOf_without id index

end Guard

namespace Link

variable {slots size : Nat} {link : Link slots size} {id : TaskId}

theorem CallerTurns.passes {exchange : Exchange} {point : CallerPoint}
    {turn : CallerTurn slots size} (turns : CallerTurns link id exchange point turn)
    (guard : Guard) : turn.Passes guard.lock guard.callerNeeds id link point := by
  cases guard with
  | registers => exact turns.registers
  | gate => exact turns.gate
  | buffer index =>
      exact Turn.passes_of_leaves (turns.sameBytes.mono fun after same => same.lockOf index)

theorem InterruptTurns.passes {point : InterruptPoint} {turn : InterruptTurn slots size}
    (turns : InterruptTurns link id point turn) (guard : Guard) :
    turn.Passes guard.lock guard.eventNeeds id link point := by
  cases guard with
  | registers => exact turns.registers
  | gate => exact Turn.passes_of_leaves (turns.sparesCaller.mono fun after spared => spared.gate)
  | buffer index => exact turns.buffers index

end Link

end UwbRadio

import UwbRadio.Lock
import UwbRadio.Pool.Buffer

/-!
A pool of receive buffers. A buffer is reserved before a reception starts and
released once its contents have been taken, so that the buffers bound how many
received frames are outstanding.

There is one permit for each free buffer. A reservation first takes a permit,
waiting if there is none, and then the first free buffer in cyclic order from the
one behind the last reserved.
-/

namespace UwbRadio

structure Slot where
  index : Nat
  deriving DecidableEq

def Slot.describe (slot : Slot) : String :=
  "Slot(" ++ toString slot.index ++ ")"

structure Pool (slots size : Nat) where
  buffers : Vector (Buffer size) slots
  locks : Vector Lock slots
  owned : Vector Bool slots
  cursor : Nat
  permits : Nat

namespace Pool

variable {slots size : Nat}

def empty (slots size : Nat) : Pool slots size :=
  { buffers := Vector.replicate slots (Buffer.empty size)
    locks := Vector.replicate slots Lock.free
    owned := Vector.replicate slots false
    cursor := 0
    permits := slots }

def isOwned (pool : Pool slots size) (index : Nat) : Bool :=
  pool.owned[index]?.getD false

/-- The buffers in the order in which the next reservation looks at them. -/
def searchOrder (pool : Pool slots size) : List Nat :=
  (List.range slots).map fun distance => (pool.cursor + distance) % slots

def claim? (pool : Pool slots size) : Option (Slot × Pool slots size) :=
  (pool.searchOrder.find? fun index => !pool.isOwned index).map fun index =>
    (⟨index⟩, { pool with
      owned := pool.owned.setIfInBounds index true
      cursor := (index + 1) % slots })

def takePermits (pool : Pool slots size) : Nat → Option Slot × Pool slots size
  | 0 => (none, { pool with permits := 0 })
  | permits + 1 =>
      match { pool with permits := permits }.claim? with
      | some (slot, pool) => (some slot, pool)
      | none => pool.takePermits permits

/-- One attempt at a reservation that may wait: it goes on as long as there are
permits and no buffer is found. -/
def reserve (pool : Pool slots size) : Option Slot × Pool slots size :=
  pool.takePermits pool.permits

def tryReserve (pool : Pool slots size) : Option Slot × Pool slots size :=
  match pool.permits with
  | 0 => (none, pool)
  | permits + 1 =>
      let rest := { pool with permits := permits }
      match rest.claim? with
      | some (slot, pool) => (some slot, pool)
      | none => (none, rest)

/-- Give a buffer back. A slot that is not reserved is ignored. -/
def release (pool : Pool slots size) (slot : Slot) : Pool slots size :=
  if pool.isOwned slot.index then
    { pool with
      owned := pool.owned.setIfInBounds slot.index false
      permits := min (pool.permits + 1) slots }
  else
    pool

def outstanding (pool : Pool slots size) : Nat :=
  pool.owned.count true

def buffer? (pool : Pool slots size) (slot : Slot) : Option (Buffer size) :=
  pool.buffers[slot.index]?

def contents (pool : Pool slots size) (slot : Slot) : Bytes :=
  (pool.buffer? slot).elim [] Buffer.contents

def setBuffer (pool : Pool slots size) (slot : Slot) (buffer : Buffer size) : Pool slots size :=
  { pool with buffers := pool.buffers.setIfInBounds slot.index buffer }

def accessible (pool : Pool slots size) (slot : Slot) : Bool :=
  pool.locks[slot.index]?.any Lock.isFree

def setLock (pool : Pool slots size) (slot : Slot) (lock : Lock) : Pool slots size :=
  { pool with locks := pool.locks.setIfInBounds slot.index lock }

/-- The pool once a task is gone: its locks are free, its slots stay reserved. -/
def without (pool : Pool slots size) (task : TaskId) : Pool slots size :=
  { pool with locks := pool.locks.map fun lock => lock.without task }

end Pool

end UwbRadio

import UwbRadio.Pool

/-!
A pool together with the buffers that one user of it holds. The user keeps one right
to each buffer: another right to the same buffer replaces the first.
-/

namespace UwbRadio

structure PoolAccount (slots size : Nat) where
  pool : Pool slots size
  held : List Slot := []

namespace PoolAccount

variable {slots size : Nat}

def keep (account : PoolAccount slots size) (slot : Slot) : PoolAccount slots size :=
  { account with held := slot :: account.held.erase slot }

def reserve? (account : PoolAccount slots size) : Option (Slot × PoolAccount slots size) :=
  match account.pool.reserve with
  | (some slot, pool) => some (slot, { account with pool }.keep slot)
  | (none, _) => none

def tryReserve (account : PoolAccount slots size) : Option Slot × PoolAccount slots size :=
  match account.pool.tryReserve with
  | (some slot, pool) => (some slot, { account with pool }.keep slot)
  | (none, pool) => (none, { account with pool })

def release (account : PoolAccount slots size) (slot : Slot) : PoolAccount slots size :=
  { pool := account.pool.release slot, held := account.held.erase slot }

/-- Give back a buffer that the user does not hold. -/
def releaseForeign (account : PoolAccount slots size) (slot : Slot) : PoolAccount slots size :=
  { account with pool := account.pool.release slot }

def buffer? (account : PoolAccount slots size) (slot : Slot) : Option (Buffer size) :=
  if account.held.contains slot then account.pool.buffer? slot else none

def setBuffer (account : PoolAccount slots size) (slot : Slot) (buffer : Buffer size) :
    PoolAccount slots size :=
  { account with pool := account.pool.setBuffer slot buffer }

end PoolAccount

end UwbRadio

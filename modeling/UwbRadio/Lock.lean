/-!
A lock that at most one task holds. Nothing is said about the order in which
waiting tasks get it: whoever asks while it is free.
-/

namespace UwbRadio

abbrev TaskId := Nat

structure Lock where
  holder : Option TaskId := none
  deriving DecidableEq

namespace Lock

def isFree (lock : Lock) : Bool := lock.holder.isNone

def heldBy (task : TaskId) : Lock := ⟨some task⟩

def free : Lock := ⟨none⟩

def without (lock : Lock) (task : TaskId) : Lock :=
  if lock.holder = some task then free else lock

end Lock

end UwbRadio

import UwbRadio.Pool

/-!
Responses that wait for processing: a bounded queue, first in, first out, of
buffers. It is as long as the pool has buffers. While processing is turned off it
takes nothing.
-/

namespace UwbRadio.Ranging

structure WorkItem where
  slot : Slot
  deriving DecidableEq

def WorkItem.describe (item : WorkItem) : String :=
  "WorkItem \x7b slot: " ++ item.slot.describe ++ " \x7d"

structure Queue (capacity : Nat) where
  items : List WorkItem := []
  enabled : Bool := true
  deriving DecidableEq

namespace Queue

variable {capacity : Nat}

def push? (queue : Queue capacity) (item : WorkItem) : Option (Queue capacity) :=
  if queue.enabled ∧ queue.items.length < capacity then
    some { queue with items := queue.items ++ [item] }
  else
    none

def pop? (queue : Queue capacity) : Option (WorkItem × Queue capacity) :=
  match queue.items with
  | [] => none
  | item :: rest => some (item, { queue with items := rest })

def setEnabled (queue : Queue capacity) (enabled : Bool) : Queue capacity :=
  { queue with enabled }

end Queue

end UwbRadio.Ranging

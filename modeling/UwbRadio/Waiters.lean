import UwbRadio.Lock

/-!
Tasks that wait for something a resource may give: a buffer of a pool, an item of a
queue. In a round each of them tries once, the oldest first.
-/

namespace UwbRadio

structure Waiters (resource : Type) where
  resource : resource
  tasks : List TaskId := []

namespace Waiters

variable {resource gift : Type}

def start (waiters : Waiters resource) (task : TaskId) : Waiters resource :=
  { waiters with tasks := waiters.tasks ++ [task] }

def waits (waiters : Waiters resource) (task : TaskId) : Bool :=
  waiters.tasks.contains task

def cancel (waiters : Waiters resource) (task : TaskId) : Waiters resource :=
  { waiters with tasks := waiters.tasks.filter fun other => other != task }

/-- Let each of `tasks` try once; what they got, and the resource and the tasks that
still wait. -/
def tryEach (attempt : resource → Option (gift × resource)) :
    List TaskId → resource → List (TaskId × gift) × Waiters resource
  | [], resource => ([], { resource })
  | task :: rest, resource =>
      match attempt resource with
      | some (gift, resource) =>
          let (given, waiters) := tryEach attempt rest resource
          ((task, gift) :: given, waiters)
      | none =>
          let (given, waiters) := tryEach attempt rest resource
          (given, { waiters with tasks := task :: waiters.tasks })

def round (waiters : Waiters resource) (attempt : resource → Option (gift × resource)) :
    List (TaskId × gift) × Waiters resource :=
  tryEach attempt waiters.tasks waiters.resource

end Waiters

end UwbRadio

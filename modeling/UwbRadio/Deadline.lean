/-!
Waiting for time to pass. A delay starts to run when it is first looked at, so a
deadline is a delay that has not started, a point in time, or never.
-/

namespace UwbRadio

inductive Deadline
  | never
  | delay (milliseconds : Nat)
  | at (time : Nat)
  deriving DecidableEq

namespace Deadline

def started (now : Nat) : Deadline → Deadline
  | .delay milliseconds => .at (now + milliseconds)
  | other => other

def reached (now : Nat) : Deadline → Bool
  | .at time => time ≤ now
  | _ => false

def time? : Deadline → Option Nat
  | .at time => some time
  | _ => none

end Deadline

end UwbRadio

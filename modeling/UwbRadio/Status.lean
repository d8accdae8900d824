/-!
Status flags, shared between the caller of a transaction and the event side: one
that says the device was brought up, and one for each way a transaction fails.
-/

namespace UwbRadio

structure Status where
  bits : UInt16
  deriving DecidableEq

namespace Status

def empty : Status := ⟨0⟩
def initialized : Status := ⟨0x01⟩
def startError : Status := ⟨0x02⟩
def receiveTimeout : Status := ⟨0x04⟩
def receiveError : Status := ⟨0x08⟩
def requestTimeout : Status := ⟨0x10⟩

def faultFlags : List Status :=
  [startError, receiveTimeout, receiveError, requestTimeout]

def faults : Status := ⟨0x1e⟩

def contains (status flags : Status) : Bool :=
  status.bits &&& flags.bits == flags.bits

def hasFault (status : Status) : Bool :=
  status.bits &&& faults.bits != 0

def insert (status flags : Status) : Status :=
  ⟨status.bits ||| flags.bits⟩

def remove (status flags : Status) : Status :=
  ⟨status.bits &&& ~~~flags.bits⟩

def faultsOf (status : Status) : Status :=
  faultFlags.foldl (fun found flag => if status.contains flag then found.insert flag else found)
    empty

def names : List (String × Status) :=
  [("initialized", initialized), ("start_tx_error", startError),
    ("rx_timeout_error", receiveTimeout), ("rx_error", receiveError),
    ("request_timeout", requestTimeout)]

def flags (status : Status) : List (String × Bool) :=
  names.map fun (name, flag) => (name, status.contains flag)

def describe (status : Status) : String :=
  "Status \x7b " ++
    String.intercalate ", " (status.flags.map fun (name, set) => name ++ ": " ++ toString set) ++
    " \x7d"

end Status

end UwbRadio

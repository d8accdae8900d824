import UwbRadio.Register.File
import UwbRadio.Register.Header

/-!
The serial bus with the device behind it.

A transaction is a command header followed by data. The bus carries it out on the
register file, unless the bus is off or the transaction is one that a fault plan
lets fail. Everything that happens is recorded with its time, latest first.

Faults and stalls stand for the disturbances a real bus has: they change which
transactions succeed and when, never what a successful one does.
-/

namespace UwbRadio

inductive BusFault
  | transfer
  | resetLine
  | disabled
  deriving DecidableEq

def BusFault.message : BusFault → String
  | .transfer => "Spi(Injected)"
  | .resetLine => "Reset(Injected)"
  | .disabled => "Disabled"

inductive Signal
  | read (header data : Bytes)
  | write (header data : Bytes)
  | failed (header : Bytes)
  | resetLine (high : Bool)
  | resetLineFailed
  | microseconds (count : Nat)
  | milliseconds (count : Nat)
  | speed (hertz : UInt32)
  deriving DecidableEq

def Signal.line : Signal → String
  | .read header data => "R " ++ Text.hexadecimalBytes header ++ " " ++ Text.hexadecimalBytes data
  | .write header data => "W " ++ Text.hexadecimalBytes header ++ " " ++ Text.hexadecimalBytes data
  | .failed header => "X " ++ Text.hexadecimalBytes header
  | .resetLine high => if high then "rst 1" else "rst 0"
  | .resetLineFailed => "X rst"
  | .microseconds count => "us " ++ toString count
  | .milliseconds count => "ms " ++ toString count
  | .speed hertz => "hz " ++ toString hertz.toNat

/-- After `passing` more successes, the next `failing` attempts fail. -/
structure FaultPlan where
  passing : Nat := 0
  failing : Nat := 0
  deriving DecidableEq

def FaultPlan.next : FaultPlan → Bool × FaultPlan
  | ⟨passing + 1, failing⟩ => (false, ⟨passing, failing⟩)
  | ⟨0, failing + 1⟩ => (true, ⟨0, failing⟩)
  | ⟨0, 0⟩ => (false, ⟨0, 0⟩)

structure Bus where
  enabled : Bool := false
  registers : RegisterFile := RegisterFile.powerUp
  transferFaults : FaultPlan := {}
  resetFaults : FaultPlan := {}
  /-- How many transactions still go through before the bus stalls. -/
  stall : Option Nat := none
  clock : Nat := 0
  trace : List (Nat × Signal) := []

namespace Bus

def record (bus : Bus) (signal : Signal) : Bus :=
  { bus with trace := (bus.clock, signal) :: bus.trace }

def stalled (bus : Bus) : Bool :=
  bus.enabled && bus.stall == some 0

def attempt (bus : Bus) : Bool × Bus :=
  let (fails, plan) := bus.transferFaults.next
  (fails, { bus with transferFaults := plan, stall := bus.stall.map Nat.pred })

def read (header : Bytes) (length : Nat) (bus : Bus) : Except BusFault Bytes × Bus :=
  if bus.enabled then
    let (fails, bus) := bus.attempt
    if fails then
      (.error .transfer, bus.record (.failed header))
    else
      let data := match Command.decode? header with
        | some (command, _) =>
            bus.registers.read command.index command.subAddress.toNat length
        | none => List.replicate length 0
      (.ok data, bus.record (.read header data))
  else
    (.error .disabled, bus)

def write (header data : Bytes) (bus : Bus) : Except BusFault Unit × Bus :=
  if bus.enabled then
    let (fails, bus) := bus.attempt
    if fails then
      (.error .transfer, bus.record (.failed header))
    else
      let registers := match Command.decode? header with
        | some (command, _) =>
            bus.registers.write command.index command.subAddress.toNat data
        | none => bus.registers
      (.ok (), { bus with registers }.record (.write header data))
  else
    (.error .disabled, bus)

def setResetLine (high : Bool) (bus : Bus) : Except BusFault Unit × Bus :=
  let (fails, plan) := bus.resetFaults.next
  let bus := { bus with resetFaults := plan }
  if fails then
    (.error .resetLine, bus.record .resetLineFailed)
  else
    (.ok (), bus.record (.resetLine high))

def configure (bus : Bus) (hertz : UInt32) : Bus :=
  { bus with enabled := true }.record (.speed hertz)

def disable (bus : Bus) : Bus :=
  { bus with enabled := false }

/-- The text of the trace after its first `count` signals. A line with the time
comes before a signal whose time is not that of the signal before it. -/
def linesSince (bus : Bus) (count : Nat) : List String :=
  let fresh := bus.trace.length - count
  let before := match bus.trace.drop fresh with
    | [] => 0
    | (time, _) :: _ => time
  let step := fun (state : Nat × List String) (entry : Nat × Signal) =>
    let lines := if entry.1 = state.1 then state.2 else ("@" ++ toString entry.1) :: state.2
    (entry.1, entry.2.line :: lines)
  ((bus.trace.take fresh).reverse.foldl step (before, [])).2.reverse

end Bus

/-- A sequence of steps on the bus that stops at the first error. What happened
until then stays. -/
abbrev Operation (error : Type) := ExceptT error (StateM Bus)

namespace Operation

def ofBus {α : Type} (use : Bus → Except BusFault α × Bus) : Operation (AccessError BusFault) α :=
  ExceptT.mk fun bus =>
    let (result, bus) := use bus
    (result.mapError AccessError.bus, bus)

def ofExcept {error α : Type} (result : Except error α) : Operation error α :=
  ExceptT.mk fun bus => (result, bus)

def change {error : Type} (alter : Bus → Bus) : Operation error Unit :=
  ExceptT.mk fun bus => (.ok (), alter bus)

def lift {α : Type} (operation : Operation (AccessError BusFault) α) :
    Operation (Error BusFault) α :=
  ExceptT.mk fun bus =>
    let (result, bus) := operation.run.run bus
    (result.mapError Error.bus, bus)

def perform {error α : Type} (operation : Operation error α) (bus : Bus) : Except error α × Bus :=
  operation.run.run bus

end Operation

namespace Bus

def reset : Operation (AccessError BusFault) Unit := do
  Operation.ofBus (setResetLine false)
  Operation.change fun bus => bus.record (.microseconds 1)
  Operation.ofBus (setResetLine true)
  Operation.change fun bus => bus.record (.milliseconds 5)

end Bus

end UwbRadio

import UwbRadio.Pool.Account
import UwbRadio.Ranging.Estimator
import UwbRadio.Station.Settle
import UwbRadio.Waiters
import UwbRadio.Proofs.Link.Caller
import UwbRadio.Proofs.Link.Interrupt
import UwbRadio.Proofs.Pool.Ownership
import UwbRadio.Proofs.Station.Turns
import UwbRadio.Proofs.Station.Effect
import UwbRadio.Proofs.Station.Gate
import UwbRadio.Proofs.Link.Balance
import UwbRadio.Proofs.Station.Conservation
import UwbRadio.Proofs.Link.Copy
import UwbRadio.Proofs.Station.LateCopy
import UwbRadio.Proofs.Register.Header
import UwbRadio.Proofs.Bus.Writes
import UwbRadio.Proofs.Link.Writes
import UwbRadio.Proofs.Link.LeftOver
import UwbRadio.Proofs.Station.Silence
import UwbRadio.Proofs.Frame.RoundTrip
import UwbRadio.Proofs.Link.Sequence
import UwbRadio.Proofs.Station.Sequence
import UwbRadio.Proofs.Link.Flags
import UwbRadio.Proofs.Station.Report
import UwbRadio.Proofs.Link.Reading
import UwbRadio.Proofs.Station.Reading
import UwbRadio.Proofs.Link.Decision
import UwbRadio.Proofs.Station.Decision
import UwbRadio.Proofs.Link.Handover
import UwbRadio.Proofs.Station.Handover
import UwbRadio.Proofs.Bus.Reads
import UwbRadio.Proofs.Bus.Healthy
import UwbRadio.Proofs.Pool.Permits
import UwbRadio.Proofs.Pool.Use
import UwbRadio.Proofs.Link.Acceptance
import UwbRadio.Proofs.Link.Payload
import UwbRadio.Proofs.Link.Locks
import UwbRadio.Proofs.Link.Permits
import UwbRadio.Proofs.Link.Progress
import UwbRadio.Proofs.Station.Queue
import UwbRadio.Proofs.Station.Payload
import UwbRadio.Proofs.Station.Locks
import UwbRadio.Proofs.Station.Poll
import UwbRadio.Proofs.Station.Progress
import UwbRadio.Proofs.Register.File
import UwbRadio.Proofs.Bus.Status
import UwbRadio.Proofs.Bus.Starts
import UwbRadio.Proofs.Link.Registers
import UwbRadio.Proofs.Link.Events
import UwbRadio.Proofs.Link.Request
import UwbRadio.Proofs.Ranging.Table
import UwbRadio.Proofs.Ranging.Message
import UwbRadio.Proofs.Station.Registers
import UwbRadio.Proofs.Station.Events
import UwbRadio.Proofs.Station.Request
import UwbRadio.Proofs.Station.Ticks
import UwbRadio.Proofs.Station.Rotation
import UwbRadio.Proofs.Station.Rounds
import UwbRadio.Proofs.Station.Schedule
import UwbRadio.Proofs.Station.Loss
import UwbRadio.Proofs.Station.Between
import UwbRadio.Proofs.Station.Dropped
import UwbRadio.Proofs.Link.Drain
import UwbRadio.Proofs.Station.Drain
import UwbRadio.Proofs.Station.FailedStart
import UwbRadio.Proofs.Bus.Replay
import UwbRadio.Proofs.Frame.Residue
import UwbRadio.Proofs.Link.Sparing
import UwbRadio.Proofs.Station.Retry
import UwbRadio.Proofs.Bus.CarryOut
import UwbRadio.Proofs.Link.OnAir
import UwbRadio.Proofs.Station.OnAir
import UwbRadio.Proofs.Link.CopyFrame
import UwbRadio.Proofs.Station.CopyFrame
import UwbRadio.Proofs.Ranging.Lookup
import UwbRadio.Proofs.Ranging.Entries
import UwbRadio.Proofs.Ranging.Answer
import UwbRadio.Proofs.Station.Answer
import UwbRadio.Proofs.Station.Outbound
import UwbRadio.Proofs.Link.Faults
import UwbRadio.Proofs.Station.Faults
import UwbRadio.Proofs.Ranging.Update
import UwbRadio.Proofs.Bus.Bounds
import UwbRadio.Proofs.Device.Port
import UwbRadio.Proofs.Device.BringUp
import UwbRadio.Proofs.Device.LeftOn
import UwbRadio.Proofs.Register.Access
import UwbRadio.Proofs.Pool.Turns
import UwbRadio.Proofs.Ranging.Codec
import UwbRadio.Proofs.Clock
import UwbRadio.Proofs.Clock.Nanoseconds

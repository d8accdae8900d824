import UwbRadio.Bytes

/-!
What a caller asks of the link: a frame to send, and how long to wait for it to be
sent or answered.
-/

namespace UwbRadio

inductive Mode
  | blocking
  | timeout (milliseconds : Nat)
  deriving DecidableEq

structure Request where
  destination : Option UInt16
  payload : Bytes
  mode : Mode
  waitForResponse : Bool
  /-- How long the receiver waits, in its own microseconds; zero is for ever. -/
  responseTimeout : UInt16
  ranging : Bool
  deriving DecidableEq

namespace Request

def ofPayload (payload : Bytes) : Request :=
  { destination := none
    payload
    mode := .blocking
    waitForResponse := false
    responseTimeout := 0
    ranging := false }

def withMode (request : Request) (mode : Mode) : Request :=
  { request with mode }

def expectResponse (request : Request) (responseTimeout : UInt16) : Request :=
  { request with waitForResponse := true, responseTimeout }

def asRanging (request : Request) : Request :=
  { request with ranging := true }

end Request

def Request.to (request : Request) (destination : UInt16) : Request :=
  { request with destination := some destination }

inductive Exchange
  | send (request : Request)
  | receive (mode : Mode) (timeout : UInt16)
  deriving DecidableEq

namespace Exchange

def mode : Exchange → Mode
  | .send request => request.mode
  | .receive mode _ => mode

def counted : Exchange → Bool
  | .send _ => true
  | .receive _ _ => false

def needsBuffer : Exchange → Bool
  | .send request => request.waitForResponse
  | .receive _ _ => true

end Exchange

end UwbRadio

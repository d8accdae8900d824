/-!
The bits of the registers, each family where its register is named.
-/

namespace UwbRadio.Bits

def deviceId : UInt32 := 0xdeca0130

def receiveTimeoutEnable : UInt64 := 0x10000000

def frameLength : UInt64 := 0x3ff
def rangingFrame : UInt64 := 0x8000
def transmitOffset : UInt64 := 0xffc00000

def transmitStart : UInt64 := 0x2
def transceiverOff : UInt64 := 0x40
def waitForResponse : UInt64 := 0x80
def receiveEnable : UInt64 := 0x100

def frameSent : UInt64 := 0x80
def headerError : UInt64 := 0x1000
def frameGood : UInt64 := 0x4000
def checkError : UInt64 := 0x8000
def syncLoss : UInt64 := 0x10000
def waitTimeout : UInt64 := 0x20000
def preambleTimeout : UInt64 := 0x200000
def delimiterTimeout : UInt64 := 0x4000000
/-- The start time was so near that the transmitter may be late. -/
def halfPeriodWarning : UInt64 := 0x8000000
def filterRejection : UInt64 := 0x20000000

def receiveTimeouts : UInt64 := waitTimeout ||| preambleTimeout ||| delimiterTimeout
def receiveErrors : UInt64 := headerError ||| checkError ||| syncLoss ||| filterRejection
def engineEvents : UInt64 := frameSent ||| frameGood ||| receiveTimeouts ||| receiveErrors

def receivedLength : UInt64 := 0x3ff

def systemClock : UInt64 := 0x03
def crystalClock : UInt64 := 0x01
def sequencerOff : UInt64 := 0x0000
def resetAll : UInt64 := 0x00
def resetNone : UInt64 := 0xf0
def alwaysOnSave : UInt64 := 0x02

end UwbRadio.Bits

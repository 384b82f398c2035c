import EchonetLite.Property.Access
import EchonetLite.ObjectCode
import EchonetLite.Service

/-!
Properties: a code, the access that is granted, the data, and the object that owns it. Data of up to
four bytes can be read and written as a number.
-/
namespace EchonetLite

structure Property where
  epc : UInt8
  access : Access
  data : Bytes := []
  parent : Option ObjectCode := none
deriving DecidableEq, Repr

namespace Property

def lowestCode : UInt8 := 0x80

def integerBytes (value : UInt32) (size : Nat) : Bytes := Bytes.ofNat (min size 4) value.toNat

def size (p : Property) : Nat := p.data.length

def integer (p : Property) : UInt32 := UInt32.ofNat (Bytes.value (p.data.take 4))

def isReadable (p : Property) : Bool := p.access.readable

def isWritable (p : Property) : Bool := p.access.writable

def isAnnounceable (p : Property) : Bool := p.access.announceable

def allows (p : Property) (s : Service) : Bool :=
  if s.isWriteRequest then p.isWritable
  else if s.isReadRequest then p.isReadable
  else if s.isWriteReadRequest then p.isReadable && p.isWritable
  else if s.isNotificationRequest || s.isNotification then p.isAnnounceable
  else false

def text (p : Property) (data : String) : String :=
  Hex.ofByte p.epc ++ ":" ++ p.access.text ++ ":" ++ data

end Property

end EchonetLite

import EchonetLite.Text.Hex

/-!
Object codes and class codes. An object code is three bytes: the class group, the class inside
the group, and the instance of the class. A class code is the first two of them.
-/
namespace EchonetLite

structure ClassCode where
  classGroup : UInt8
  classCode : UInt8
deriving DecidableEq, Repr

structure ObjectCode where
  classGroup : UInt8
  classCode : UInt8
  instanceCode : UInt8
deriving DecidableEq, Repr

namespace ClassCode

def nodeProfile : ClassCode := ⟨0x0E, 0xF0⟩

def object (c : ClassCode) (instanceCode : UInt8) : ObjectCode :=
  ⟨c.classGroup, c.classCode, instanceCode⟩

def toBytes (c : ClassCode) : Bytes := [c.classGroup, c.classCode]

def value (c : ClassCode) : Nat := c.toBytes.value

def text (c : ClassCode) : String := Hex.ofBytes c.toBytes

end ClassCode

namespace ObjectCode

def superObject : ObjectCode := ⟨0x00, 0x00, 0x00⟩

def nodeProfile : ObjectCode := ⟨0x0E, 0xF0, 0x01⟩

def sendOnlyNodeProfile : ObjectCode := ⟨0x0E, 0xF0, 0x02⟩

def controller : ObjectCode := ⟨0x05, 0xFF, 0x01⟩

def profileGroup : UInt8 := 0x0E

def ofNat (n : Nat) : ObjectCode :=
  ⟨UInt8.ofNat (n / 65536), UInt8.ofNat (n / 256), UInt8.ofNat n⟩

def toBytes (o : ObjectCode) : Bytes := [o.classGroup, o.classCode, o.instanceCode]

def value (o : ObjectCode) : Nat := o.toBytes.value

def text (o : ObjectCode) : String := Hex.ofBytes o.toBytes

def objectClass (o : ObjectCode) : ClassCode := ⟨o.classGroup, o.classCode⟩

def isProfile (o : ObjectCode) : Bool := o.classGroup == profileGroup

def isNodeProfile (o : ObjectCode) : Bool := o == nodeProfile || o == sendOnlyNodeProfile

/-- Whether a destination names the object that has code `held`: instance 0 of a class names
every object of the class, any other code only itself. -/
def names (wanted held : ObjectCode) : Bool :=
  if wanted.instanceCode == 0 then held.objectClass == wanted.objectClass else held == wanted

end ObjectCode

end EchonetLite

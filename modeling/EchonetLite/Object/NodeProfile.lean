import EchonetLite.Object.Basic
import EchonetLite.Object.Lists

/-!
Node profiles. The node profile describes a node: its version, its identification number, and which
devices and classes it has.
-/
namespace EchonetLite

abbrev Serial := Vector UInt8 13

namespace Object

def profileVersion : Bytes := [0x01, 0x0A, 0x01, 0x00]

def identification (manufacturer : UInt32) (serial : Serial) : Bytes :=
  0xFE :: (Property.integerBytes manufacturer 3 ++ serial.toList)

/-- Writes the number and the list of the given devices, and the number and the list of their
classes, into a node profile. The profile's own class is counted but not listed. -/
def describeDevices (o : Object) (devices : List ObjectCode) : Object :=
  let classes := ClassList.ofObjects devices
  let o := o.store Epc.instanceCount
    (Property.integerBytes (UInt32.ofNat devices.length) 3)
  let o := o.store Epc.classCount
    (Property.integerBytes (UInt32.ofNat (classes.length + 1)) 2)
  let o := o.store Epc.announcedInstances (InstanceList.encode devices)
  let o := o.store Epc.instanceList (InstanceList.encode devices)
  o.store Epc.classList (ClassList.encode classes)

def nodeProfileCode (sendOnly : Bool) : ObjectCode :=
  if sendOnly then .sendOnlyNodeProfile else .nodeProfile

def nodeProfile (manufacturer : UInt32) (sendOnly : Bool) (serial : Serial) : Object :=
  let code := nodeProfileCode sendOnly
  let o := profile code.classCode code.instanceCode
  let o := o.setManufacturer manufacturer
  let o := o.place Epc.standardVersion .read profileVersion
  let o := o.place Epc.identification .read (identification manufacturer serial)
  let o := o.place Epc.instanceCount .read []
  let o := o.place Epc.classCount .read []
  let o := o.place Epc.announcedInstances .announce []
  let o := o.place Epc.instanceList .read []
  let o := o.place Epc.classList .read []
  o.refreshMaps.describeDevices []

end Object

end EchonetLite

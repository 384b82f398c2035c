import EchonetLite.Property.Codes
import EchonetLite.Property.Map
import EchonetLite.Property.Table

/-!
Objects. An object has a code, properties, and three property maps: what can be read, what can be
written, what is announced. The maps follow the properties, and the properties 9D, 9E and 9F, where
the object has them, hold the maps as data.
-/
namespace EchonetLite

structure Object where
  code : ObjectCode
  properties : PropertyTable := .empty
  getMap : PropertyMap := {}
  setMap : PropertyMap := {}
  announceMap : PropertyMap := {}
  attached : Bool := false
deriving DecidableEq

namespace Object

def experimentalManufacturer : UInt32 := 0xFFFFFF

def statusOn : UInt8 := 0x30

def noFault : UInt8 := 0x42

def locationUnspecified : UInt8 := 0x00

def deviceVersion : Bytes := [0x00, 0x00, 0x52, 0x01]

def property? (o : Object) (epc : UInt8) : Option Property := o.properties.find? epc

def data? (o : Object) (epc : UInt8) : Option Bytes := (o.property? epc).map Property.data

def propertyCount (o : Object) : Nat := o.properties.toList.length

def isDevice (o : Object) : Bool := !o.code.isProfile

def place (o : Object) (epc : UInt8) (access : Access) (data : Bytes) : Object :=
  { o with properties := o.properties.insert { epc, access, data, parent := some o.code } }

def store (o : Object) (epc : UInt8) (data : Bytes) : Object :=
  { o with properties := o.properties.setData epc data }

def refreshMaps (o : Object) : Object :=
  let getMap := PropertyMap.ofList (o.properties.codesWhere Property.isReadable)
  let setMap := PropertyMap.ofList (o.properties.codesWhere Property.isWritable)
  let announceMap := PropertyMap.ofList (o.properties.codesWhere Property.isAnnounceable)
  let o := o.store Epc.getMap getMap.encode
  let o := o.store Epc.setMap setMap.encode
  let o := o.store Epc.announceMap announceMap.encode
  { o with getMap, setMap, announceMap }

def add (o : Object) (epc : UInt8) (access : Access) (data : Bytes := []) :
    Except Error Unit × Object :=
  if epc < Property.lowestCode then (.error (.protocol (.codeTooLow epc)), o)
  else (.ok (), (o.place epc access data).refreshMaps)

def setAccess (o : Object) (epc : UInt8) (access : Access) : Except Error Unit × Object :=
  match o.property? epc with
  | none => (.error (.protocol (.noProperty o.code epc)), o)
  | some _ => (.ok (), { o with properties := o.properties.setAccess epc access }.refreshMaps)

def setData (o : Object) (epc : UInt8) (data : Bytes) : Except Error Unit × Object :=
  match o.property? epc with
  | none => (.error (.protocol (.noProperty o.code epc)), o)
  | some _ => (.ok (), o.store epc data)

def manufacturer? (o : Object) : Option UInt32 := (o.property? Epc.manufacturer).map Property.integer

def setManufacturer (o : Object) (code : UInt32) : Object :=
  o.store Epc.manufacturer (Property.integerBytes code 3)

def operationStatus? (o : Object) : Option UInt8 := (o.data? Epc.operationStatus).bind List.head?

def bare (code : ObjectCode) : Object := { code }

def basic (code : ObjectCode) : Object :=
  let o := bare code
  let o := o.place Epc.operationStatus .readAnnounce [statusOn]
  let o := o.place Epc.manufacturer .read (Property.integerBytes experimentalManufacturer 3)
  let o := o.place Epc.announceMap .read []
  let o := o.place Epc.setMap .read []
  let o := o.place Epc.getMap .read []
  o.refreshMaps

def device (code : ObjectCode) : Object :=
  let o := basic code
  let o := o.place Epc.installationLocation .readWriteAnnounce [locationUnspecified]
  let o := o.place Epc.standardVersion .read deviceVersion
  let o := o.place Epc.faultStatus .readAnnounce [noFault]
  o.refreshMaps

def profile (classCode instanceCode : UInt8) : Object :=
  let o := basic ⟨ObjectCode.profileGroup, classCode, instanceCode⟩
  let o := o.place Epc.faultStatus .read [noFault]
  o.refreshMaps

end Object

end EchonetLite

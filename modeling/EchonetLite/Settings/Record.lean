import EchonetLite.Settings.Basic
import EchonetLite.Settings.Seconds

/-!
Settings as records of named values. A record may leave out fields, which then have their usual
values, and may have fields that mean nothing. A list stands for a record whose fields come in a
fixed order. The fields of a record are read in alphabetical order and the first fault ends the
reading.
-/
namespace EchonetLite

inductive Value where
  | null
  | boolean (b : Bool)
  | integer (n : Int)
  | real (x : Float)
  | text (s : String)
  | list (items : List Value)
  | record (fields : List (String × Value))
deriving Inhabited

inductive ReadFault where
  | shape
  | seconds (fault : SecondsFault)

namespace Value

def field? (fields : List (String × Value)) (name : String) : Option Value :=
  (fields.reverse.find? (·.1 == name)).map Prod.snd

def toBool : Value → Except ReadFault Bool
  | boolean b => .ok b
  | _ => .error .shape

def toNat (limit : Nat) : Value → Except ReadFault Nat
  | integer n => if 0 ≤ n ∧ n < limit then .ok n.toNat else .error .shape
  | _ => .error .shape

def toUInt16 (v : Value) : Except ReadFault UInt16 := (v.toNat UInt16.size).map UInt16.ofNat

def toUInt32 (v : Value) : Except ReadFault UInt32 := (v.toNat UInt32.size).map UInt32.ofNat

def toIpv4 : Value → Except ReadFault Ipv4
  | text s =>
    match Ipv4.read? s with
    | some x => .ok x
    | none => .error .shape
  | _ => .error .shape

def toIpv4s : Value → Except ReadFault (List Ipv4)
  | list items => items.mapM toIpv4
  | _ => .error .shape

def toDuration : Value → Except ReadFault Duration
  | integer n => (Duration.readSeconds (Float.ofInt n)).mapError .seconds
  | real x => (Duration.readSeconds x).mapError .seconds
  | _ => .error .shape

end Value

structure FieldReader (α : Type) where
  name : String
  read : Value → α → Except ReadFault α

namespace FieldReader

def of {α β : Type} (name : String) (parse : Value → Except ReadFault β) (put : α → β → α) :
    FieldReader α :=
  ⟨name, fun v s => (parse v).map (put s)⟩

def readNamed {α : Type} (fields : List (String × Value)) :
    List (FieldReader α) → α → Except ReadFault α
  | [], s => .ok s
  | r :: rs, s => do
    let s ← match Value.field? fields r.name with
      | some v => r.read v s
      | none => .ok s
    readNamed fields rs s

def readInOrder {α : Type} : List Value → List (FieldReader α) → α → Except ReadFault α
  | [], _, s => .ok s
  | _ :: _, [], _ => .error .shape
  | v :: vs, r :: rs, s => do
    let s ← r.read v s
    readInOrder vs rs s

def readRecord {α : Type} (readers : List (FieldReader α)) (usual : α) :
    Value → Except ReadFault α
  | .record fields =>
    readNamed fields (readers.mergeSort fun r s => decide (r.name ≤ s.name)) usual
  | .list items => readInOrder items readers usual
  | _ => .error .shape

end FieldReader

namespace TransportSettings

def readers : List (FieldReader TransportSettings) :=
  [.of "port" Value.toUInt16 fun s v => { s with port := v },
    .of "multicast_group" Value.toIpv4 fun s v => { s with group := v },
    .of "interfaces" Value.toIpv4s fun s v => { s with interfaces := v },
    .of "multicast_enabled" Value.toBool fun s v => { s with multicast := v },
    .of "tcp_enabled" Value.toBool fun s v => { s with tcp := v },
    .of "self_message_enabled" Value.toBool fun s v => { s with acceptOwn := v },
    .of "bind_retry_count" (Value.toNat UInt64.size) fun s v => { s with bindAttempts := v },
    .of "bind_retry_wait" Value.toDuration fun s v => { s with bindWait := v },
    .of "auto_port_binding" Value.toBool fun s v => { s with stepPorts := v },
    .of "port_step_limit" Value.toUInt16 fun s v => { s with portLimit := v },
    .of "tcp_connect_timeout" Value.toDuration fun s v => { s with connectTimeout := v }]

def read (v : Value) : Except ReadFault TransportSettings := FieldReader.readRecord readers {} v

def toValue (s : TransportSettings) : Value :=
  .record
    [("port", .integer s.port.toNat),
      ("multicast_group", .text s.group.text),
      ("interfaces", .list (s.interfaces.map fun x => .text x.text)),
      ("multicast_enabled", .boolean s.multicast),
      ("tcp_enabled", .boolean s.tcp),
      ("self_message_enabled", .boolean s.acceptOwn),
      ("bind_retry_count", .integer s.bindAttempts),
      ("bind_retry_wait", .real s.bindWait.writeSeconds),
      ("auto_port_binding", .boolean s.stepPorts),
      ("port_step_limit", .integer s.portLimit.toNat),
      ("tcp_connect_timeout", .real s.connectTimeout.writeSeconds)]

end TransportSettings

namespace NodeSettings

def readers : List (FieldReader NodeSettings) :=
  [.of "transport" TransportSettings.read fun s v => { s with transport := v },
    .of "request_timeout" Value.toDuration fun s v => { s with requestTimeout := v },
    .of "manufacturer_code" Value.toUInt32 fun s v => { s with manufacturer := v },
    .of "random_initial_tid" Value.toBool fun s v => { s with randomFirstTid := v },
    .of "read_only_profile" Value.toBool fun s v => { s with sendOnly := v }]

def read (v : Value) : Except ReadFault NodeSettings := FieldReader.readRecord readers {} v

def toValue (s : NodeSettings) : Value :=
  .record
    [("transport", s.transport.toValue),
      ("request_timeout", .real s.requestTimeout.writeSeconds),
      ("manufacturer_code", .integer s.manufacturer.toNat),
      ("random_initial_tid", .boolean s.randomFirstTid),
      ("read_only_profile", .boolean s.sendOnly)]

end NodeSettings

end EchonetLite

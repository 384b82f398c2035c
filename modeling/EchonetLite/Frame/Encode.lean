import EchonetLite.Error
import EchonetLite.Message

/-!
The written form of a message. A frame begins with two fixed bytes; the number of entries and the
length of each entry's data are one byte each, so not every message has a frame.
-/
namespace EchonetLite

namespace Frame

def firstByte : UInt8 := 0x10

def secondByte : UInt8 := 0x81

def headerSize : Nat := 12

def byteLimit : Nat := 255

end Frame

def Entry.wire (e : Entry) : Bytes := e.epc :: UInt8.ofNat e.pdc :: e.edt

namespace Message

def wireHeader (m : Message) : Bytes :=
  [Frame.firstByte, Frame.secondByte] ++ Bytes.ofNat 2 m.tid.toNat ++ m.seoj.toBytes ++
    m.deoj.toBytes ++ [m.esv.code, UInt8.ofNat m.opc]

def wire (m : Message) : Bytes := m.wireHeader ++ m.entries.flatMap Entry.wire

def frameFault? (m : Message) : Option ProtocolFault :=
  if Frame.byteLimit < m.opc then some (.tooManyEntries m.opc)
  else (m.entries.find? fun e => decide (Frame.byteLimit < e.pdc)).map fun e =>
    .dataTooLong e.epc e.pdc

def encode (m : Message) : Except Error Bytes :=
  match m.frameFault? with
  | some fault => .error (.protocol fault)
  | none => .ok m.wire

end Message

end EchonetLite

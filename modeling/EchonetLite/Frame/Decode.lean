import EchonetLite.Frame.Encode

/-!
Reading a message from the front of a byte string. Each field is taken from what is left of the
string; a string that ends inside a field is reported with that field. Bytes after the last entry
are left over.
-/
namespace EchonetLite

namespace Frame

def takeField (stage : Stage) (size : Nat) (bytes : Bytes) : Except Error (Bytes × Bytes) :=
  if bytes.length < size then .error (.shortMessage stage size bytes.length)
  else .ok (bytes.take size, bytes.drop size)

def takeByte (stage : Stage) : Bytes → Except Error (UInt8 × Bytes)
  | [] => .error (.shortMessage stage 1 0)
  | b :: rest => .ok (b, rest)

def checkHeader (first second : UInt8) : Except Error Unit :=
  if first ≠ firstByte then .error (.malformedFrame (.firstByte first))
  else if second ≠ secondByte then .error (.malformedFrame (.secondByte second))
  else .ok ()

def takeHeader : Bytes → Except Error Bytes
  | first :: second :: rest => do
    checkHeader first second
    return rest
  | bytes => .error (.shortMessage .header 2 bytes.length)

def takeTid : Bytes → Except Error (UInt16 × Bytes)
  | hi :: lo :: rest => .ok (UInt16.ofNat (hi.toNat * 256 + lo.toNat), rest)
  | bytes => .error (.shortMessage .tid 2 bytes.length)

def takeObjectCode (stage : Stage) : Bytes → Except Error (ObjectCode × Bytes)
  | x :: y :: z :: rest => .ok (⟨x, y, z⟩, rest)
  | bytes => .error (.shortMessage stage 3 bytes.length)

def takeEntry (bytes : Bytes) : Except Error (Entry × Bytes) := do
  let (epc, bytes) ← takeByte .propertyCode bytes
  let (pdc, bytes) ← takeByte .propertyDataCounter bytes
  let (edt, bytes) ← takeField .propertyData pdc.toNat bytes
  return (⟨epc, edt⟩, bytes)

def takeEntries : (count : Nat) → Bytes → Except Error (List Entry × Bytes)
  | 0, bytes => .ok ([], bytes)
  | count + 1, bytes => do
    let (entry, bytes) ← takeEntry bytes
    let (entries, bytes) ← takeEntries count bytes
    return (entry :: entries, bytes)

def takeMessage (bytes : Bytes) : Except Error (Message × Bytes) := do
  let bytes ← takeHeader bytes
  let (tid, bytes) ← takeTid bytes
  let (seoj, bytes) ← takeObjectCode .seoj bytes
  let (deoj, bytes) ← takeObjectCode .deoj bytes
  let (esv, bytes) ← takeByte .esv bytes
  let (opc, bytes) ← takeByte .opc bytes
  let (entries, bytes) ← takeEntries opc.toNat bytes
  return ({ tid, seoj, deoj, esv := ⟨esv⟩, entries }, bytes)

end Frame

def Message.decode (bytes : Bytes) : Except Error Message :=
  match Frame.takeMessage bytes with
  | .ok (m, _) => .ok m
  | .error e => .error e

end EchonetLite

import EchonetLite.Error
import EchonetLite.Property.Basic

/-!
Property maps. A property map is a set of property codes from 80 to FF. On the wire it begins with
the number of codes. Up to fifteen codes are listed; more are drawn in a table of sixteen rows,
the low half of a code naming the row and the high half the bit.
-/
namespace EchonetLite

/-- A set of property codes from 80 on: bit `i` stands for code `80 + i`. -/
structure PropertyMap where
  members : BitVec 128 := 0#128
deriving DecidableEq

namespace PropertyMap

def longestList : Nat := 15

def tableSize : Nat := 17

def codeAt (i : Nat) : UInt8 := UInt8.ofNat (128 + i)

def codeOf (row bit : Nat) : UInt8 := codeAt (row + 16 * bit)

def position (epc : UInt8) : Nat × Nat :=
  let offset := (epc - Property.lowestCode).toNat
  (offset % 16 + 1, offset / 16)

def empty : PropertyMap := {}

def contains (map : PropertyMap) (epc : UInt8) : Bool :=
  decide (Property.lowestCode ≤ epc) && map.members.getLsbD (epc.toNat - 128)

def insert (map : PropertyMap) (epc : UInt8) : PropertyMap :=
  if epc < Property.lowestCode then map
  else ⟨map.members ||| BitVec.twoPow 128 (epc.toNat - 128)⟩

def isNew (map : PropertyMap) (epc : UInt8) : Bool :=
  decide (Property.lowestCode ≤ epc) && !map.contains epc

def ofList (epcs : List UInt8) : PropertyMap := epcs.foldl insert empty

def codes (map : PropertyMap) : List UInt8 :=
  ((List.range 128).filter map.members.getLsbD).map codeAt

def size (map : PropertyMap) : Nat := map.codes.length

def isEmpty (map : PropertyMap) : Bool := map.codes.isEmpty

def draw (data : Bytes) (epc : UInt8) : Bytes :=
  data.modify (position epc).1 (· ||| 1 <<< UInt8.ofNat (position epc).2)

def encode (map : PropertyMap) : Bytes :=
  if map.size ≤ longestList then UInt8.ofNat map.size :: map.codes
  else map.codes.foldl draw ((List.replicate tableSize 0).set 0 (UInt8.ofNat map.size))

def tableCodes (rows : Bytes) : List UInt8 :=
  (List.range 16).flatMap fun row => (List.range 8).filterMap fun bit =>
    if (rows.getD row 0).toNat.testBit bit then some (codeOf row bit) else none

def decode (data : Bytes) : Except Error PropertyMap :=
  match data with
  | [] => .error (.protocol .emptyPropertyMap)
  | count :: rest =>
    if count.toNat ≤ longestList then
      if rest.length < count.toNat then
        .error (.protocol (.shortCodeList count.toNat rest.length))
      else .ok (ofList (rest.take count.toNat))
    else if data.length < tableSize then .error (.protocol (.shortBitmap data.length))
    else .ok (ofList (tableCodes rest))

end PropertyMap

end EchonetLite

import EchonetLite.Bytes

/-!
Upper-case hexadecimal text of numbers and byte strings.
-/
namespace EchonetLite.Hex

def digit (n : Nat) : Char :=
  if n < 10 then Char.ofNat (48 + n) else Char.ofNat (55 + n)

def digitValue? (c : Char) : Option Nat :=
  if '0' ≤ c ∧ c ≤ '9' then some (c.toNat - 48)
  else if 'A' ≤ c ∧ c ≤ 'F' then some (c.toNat - 55)
  else if 'a' ≤ c ∧ c ≤ 'f' then some (c.toNat - 87)
  else none

def digits : (width n : Nat) → List Char
  | 0, _ => []
  | width + 1, n => digits width (n / 16) ++ [digit (n % 16)]

def width (n : Nat) : Nat := n.log2 / 4 + 1

def ofNat (least n : Nat) : String :=
  String.ofList (digits (max least (width n)) n)

def byteDigits (b : UInt8) : List Char := digits 2 b.toNat

def ofByte (b : UInt8) : String := String.ofList (byteDigits b)

def ofBytes (bytes : Bytes) : String := String.ofList (bytes.flatMap byteDigits)

def bytesOfDigits? : List Char → Option Bytes
  | [] => some []
  | [_] => none
  | hi :: lo :: rest => do
    let h ← digitValue? hi
    let l ← digitValue? lo
    let bytes ← bytesOfDigits? rest
    some (UInt8.ofNat (16 * h + l) :: bytes)

def toBytes? (text : String) : Option Bytes := bytesOfDigits? text.toList

end EchonetLite.Hex

import EchonetLite.Text.Numeral

/-!
Internet addresses and endpoints, with their texts. Addresses of version 4 are four bytes in
dotted decimal; addresses of version 6 are eight groups of sixteen bits in hexadecimal, the first
longest run of two or more zero groups left out.
-/
namespace EchonetLite

structure Ipv4 where
  a : UInt8
  b : UInt8
  c : UInt8
  d : UInt8
deriving DecidableEq, Repr

structure Ipv6 where
  groups : Vector UInt16 8
deriving DecidableEq

inductive IpAddress where
  | v4 (address : Ipv4)
  | v6 (address : Ipv6)
deriving DecidableEq

structure Endpoint where
  address : IpAddress
  port : UInt16
deriving DecidableEq

namespace Ipv4

def localhost : Ipv4 := ⟨127, 0, 0, 1⟩

def any : Ipv4 := ⟨0, 0, 0, 0⟩

def nodeGroup : Ipv4 := ⟨224, 0, 23, 0⟩

def isMulticast (x : Ipv4) : Bool := decide (224 ≤ x.a ∧ x.a ≤ 239)

def isLoopback (x : Ipv4) : Bool := x.a == 127

def masked (x mask : Ipv4) : Ipv4 :=
  ⟨x.a &&& mask.a, x.b &&& mask.b, x.c &&& mask.c, x.d &&& mask.d⟩

def text (x : Ipv4) : String :=
  ".".intercalate ([x.a, x.b, x.c, x.d].map fun n => toString n.toNat)

def readByte? (s : String) : Option UInt8 := do
  let n ← Numeral.readPlain? s.toList
  if n < 256 then some (UInt8.ofNat n) else none

def read? (s : String) : Option Ipv4 :=
  match s.splitOn "." with
  | [a, b, c, d] => do
    let a ← readByte? a
    let b ← readByte? b
    let c ← readByte? c
    let d ← readByte? d
    some ⟨a, b, c, d⟩
  | _ => none

end Ipv4

namespace Ipv6

def readGroup? (s : String) : Option UInt16 :=
  let value? := s.toList.foldlM (fun acc c =>
    if '0' ≤ c ∧ c ≤ '9' then some (acc * 16 + (c.toNat - 48))
    else if 'a' ≤ c ∧ c ≤ 'f' then some (acc * 16 + (c.toNat - 87))
    else if 'A' ≤ c ∧ c ≤ 'F' then some (acc * 16 + (c.toNat - 55))
    else none) 0
  if s.isEmpty ∨ 4 < s.length then none else value?.map UInt16.ofNat

def readGroups? : List String → Option (List UInt16)
  | [] => some []
  | [s] =>
    match Ipv4.read? s with
    | some x => some [UInt16.ofNat (x.a.toNat * 256 + x.b.toNat),
        UInt16.ofNat (x.c.toNat * 256 + x.d.toNat)]
    | none => (readGroup? s).map fun g => [g]
  | s :: rest => do
    let g ← readGroup? s
    let gs ← readGroups? rest
    some (g :: gs)

def readRow? (s : String) : Option (List UInt16) :=
  if s.isEmpty then some [] else readGroups? (s.splitOn ":")

def ofGroups? (gs : List UInt16) : Option Ipv6 :=
  if h : gs.length = 8 then some ⟨⟨gs.toArray, by simpa using h⟩⟩ else none

def read? (s : String) : Option Ipv6 :=
  match s.splitOn "::" with
  | [row] => do
    let gs ← readRow? row
    ofGroups? gs
  | [front, back] => do
    let fs ← readRow? front
    let bs ← readRow? back
    if fs.length + bs.length < 8 then
      ofGroups? (fs ++ List.replicate (8 - fs.length - bs.length) 0 ++ bs)
    else none
  | _ => none

def zeroRun (gs : List UInt16) : Nat := (gs.takeWhile (· == 0)).length

def longestZeroRun (gs : List UInt16) : Nat × Nat :=
  (List.range gs.length).foldl (fun best i =>
    if best.2 < zeroRun (gs.drop i) then (i, zeroRun (gs.drop i)) else best) (0, 0)

def groupText (g : UInt16) : String := String.ofList (Nat.toDigits 16 g.toNat)

def rowText (gs : List UInt16) : String := ":".intercalate (gs.map groupText)

def text (x : Ipv6) : String :=
  let gs := x.groups.toList
  match gs with
  | [0, 0, 0, 0, 0, 0xFFFF, hi, lo] =>
    "::ffff:" ++ Ipv4.text ⟨UInt8.ofNat (hi.toNat / 256), UInt8.ofNat hi.toNat,
      UInt8.ofNat (lo.toNat / 256), UInt8.ofNat lo.toNat⟩
  | _ =>
    let run := longestZeroRun gs
    if 1 < run.2 then rowText (gs.take run.1) ++ "::" ++ rowText (gs.drop (run.1 + run.2))
    else rowText gs

end Ipv6

namespace IpAddress

def text : IpAddress → String
  | v4 x => x.text
  | v6 x => x.text

end IpAddress

namespace Endpoint

def ofIpv4 (address : Ipv4) (port : UInt16) : Endpoint := ⟨.v4 address, port⟩

def text (e : Endpoint) : String :=
  match e.address with
  | .v4 x => x.text ++ ":" ++ toString e.port.toNat
  | .v6 x => "[" ++ x.text ++ "]:" ++ toString e.port.toNat

def readPort? (s : String) : Option UInt16 := do
  let n ← Numeral.read? s.toList
  if n < 65536 then some (UInt16.ofNat n) else none

def read? (s : String) : Option Endpoint :=
  match s.toList with
  | '[' :: rest =>
    match (String.ofList rest).splitOn "]:" with
    | [address, port] => do
      let x ← Ipv6.read? address
      let p ← readPort? port
      some ⟨.v6 x, p⟩
    | _ => none
  | _ =>
    match s.splitOn ":" with
    | [address, port] => do
      let x ← Ipv4.read? address
      let p ← readPort? port
      some ⟨.v4 x, p⟩
    | _ => none

end Endpoint

end EchonetLite

import EchonetLite.ObjectCode

/-!
Lists of object codes and of class codes as property data: a count, then the codes. A list of
objects holds at most 84 codes and a list of classes at most 8, so the data fits an entry. A list
that ends before its count is reached yields the codes that are complete.
-/
namespace EchonetLite

namespace InstanceList

def limit : Nat := 84

def row : Bytes → List ObjectCode
  | x :: y :: z :: rest => ⟨x, y, z⟩ :: row rest
  | _ => []

def encode (codes : List ObjectCode) : Bytes :=
  UInt8.ofNat (codes.take limit).length :: (codes.take limit).flatMap ObjectCode.toBytes

def decode : Bytes → List ObjectCode
  | [] => []
  | count :: rest => (row rest).take count.toNat

end InstanceList

namespace ClassList

def limit : Nat := 8

def row : Bytes → List ClassCode
  | x :: y :: rest => ⟨x, y⟩ :: row rest
  | _ => []

def encode (classes : List ClassCode) : Bytes :=
  UInt8.ofNat (classes.take limit).length :: (classes.take limit).flatMap ClassCode.toBytes

def decode : Bytes → List ClassCode
  | [] => []
  | count :: rest => (row rest).take count.toNat

def insert (c : ClassCode) : List ClassCode → List ClassCode
  | [] => [c]
  | d :: ds =>
    if c.value < d.value then c :: d :: ds
    else if c = d then d :: ds
    else d :: insert c ds

def ofObjects (codes : List ObjectCode) : List ClassCode :=
  codes.foldr (fun code classes => insert code.objectClass classes) []

end ClassList

end EchonetLite

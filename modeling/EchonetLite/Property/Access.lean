/-!
The access that a property grants: read, write and announce, each on its own.
-/
namespace EchonetLite

structure Access where
  readable : Bool := false
  writable : Bool := false
  announceable : Bool := false
deriving DecidableEq, Repr

namespace Access

def nothing : Access := {}
def read : Access := { readable := true }
def write : Access := { writable := true }
def announce : Access := { announceable := true }
def readWrite : Access := { readable := true, writable := true }
def readAnnounce : Access := { readable := true, announceable := true }
def readWriteAnnounce : Access := { readable := true, writable := true, announceable := true }

def union (x y : Access) : Access :=
  { readable := x.readable || y.readable
    writable := x.writable || y.writable
    announceable := x.announceable || y.announceable }

def contains (x y : Access) : Bool := x.union y == x

def bits (x : Access) : Nat :=
  x.readable.toNat + 2 * x.writable.toNat + 16 * x.announceable.toNat

def text (x : Access) : String :=
  (if x.readable then "R" else "-") ++ (if x.writable then "W" else "-") ++
    (if x.announceable then "A" else "-")

end Access

end EchonetLite

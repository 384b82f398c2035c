import EchonetLite.Net.Address

/-!
Network interfaces on which a node binds sockets.
-/
namespace EchonetLite

structure Interface where
  name : String := ""
  address : Ipv4
  mask : Option Ipv4 := none
deriving DecidableEq, Repr

namespace Interface

def contains (i : Interface) (destination : Ipv4) : Bool :=
  if destination.isLoopback then i.address.isLoopback
  else
    match i.mask with
    | some mask => i.address.masked mask == destination.masked mask
    | none => false

def select (known : List Interface) (addresses : List Ipv4) : List Interface :=
  if addresses.isEmpty then known
  else addresses.map fun a => (known.find? (·.address == a)).getD { address := a }

end Interface

end EchonetLite

import EchonetLite.Net.Connection

/-!
A machine on which sockets are opened. It knows which sockets are open, and so what comes of
opening another one. The machine is on no network: its addresses are the loopback addresses and the
one that stands for all of them.
-/
namespace EchonetLite

/-- A machine: whether one of its devices can take part in groups, and the sockets open on it.
Sockets that listen to a group share their endpoint with each other. -/
structure Machine where
  joinsGroups : Bool := true
  datagram : List Endpoint := []
  group : List Endpoint := []
  listening : List Endpoint := []
deriving DecidableEq

namespace Machine

def firstFreePort : Nat := 49152

def hasAddress (a : Ipv4) : Bool := a.isLoopback || a == .any

def clash (x y : Endpoint) : Bool :=
  x.port == y.port &&
    (x.address == y.address || x.address == .v4 .any || y.address == .v4 .any)

def choosePort (taken : List Endpoint) (a : Ipv4) (port : UInt16) : Except IoFault UInt16 :=
  let free (port : UInt16) := !taken.any (clash (.ofIpv4 a port))
  if !hasAddress a then .error (.system .addressNotAvailable)
  else if port != 0 then if free port then .ok port else .error (.system .addressInUse)
  else
    let ports := (List.range (65536 - firstFreePort)).map fun i => UInt16.ofNat (firstFreePort + i)
    match ports.find? free with
    | some port => .ok port
    | none => .error (.system .addressInUse)

def bindUnicast (a : Ipv4) (port : UInt16) (m : Machine) : Except IoFault UInt16 × Machine :=
  match choosePort (m.datagram ++ m.group) a port with
  | .error fault => (.error fault, m)
  | .ok port => (.ok port, { m with datagram := m.datagram ++ [.ofIpv4 a port] })

def joinGroup (g a : Ipv4) (port : UInt16) (m : Machine) : Except IoFault Unit × Machine :=
  let endpoint := Endpoint.ofIpv4 g port
  if m.datagram.any (clash endpoint) then (.error (.system .addressInUse), m)
  else if !m.joinsGroups || !hasAddress a then (.error (.system .noSuchDevice), m)
  else (.ok (), { m with group := m.group ++ [endpoint] })

def listen (a : Ipv4) (port : UInt16) (m : Machine) : Except IoFault UInt16 × Machine :=
  match choosePort m.listening a port with
  | .error fault => (.error fault, m)
  | .ok port => (.ok port, { m with listening := m.listening ++ [.ofIpv4 a port] })

def system : System Machine := { bindUnicast, joinGroup, listen }

def close (m : Machine) (t : Transport) : Machine :=
  { m with
    datagram := m.datagram.filter fun e => !t.endpoints.contains e
    group := t.groups.foldl (fun sockets _ => sockets.erase t.groupEndpoint) m.group
    listening := m.listening.filter fun e => !t.listeners.contains e }

def send (d : Datagram) : Except IoFault Nat :=
  if d.payload.length > Datagram.sizeLimit then .error (.system (.numbered 90 "Message too long"))
  else
    match d.destination.address with
    | .v4 _ => .ok d.payload.length
    | .v6 _ => .error (.system (.numbered 97 "Address family not supported by protocol"))

def connect (m : Machine) (destination : Endpoint) : Connection.Opening :=
  if m.listening.any (clash destination) then .established
  else .failed (.system (.numbered 111 "Connection refused"))

end Machine

end EchonetLite

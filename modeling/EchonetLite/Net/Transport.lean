import EchonetLite.Frame.Stream
import EchonetLite.Net.Bind
import EchonetLite.Net.Interface

/-!
The sockets of a node. On each interface a node has a socket for datagrams, from which it also sends
to the group; with multicast it listens to the group, and with connections it listens on the port
of its datagram socket. A frame to one endpoint leaves through the interface whose subnet the
endpoint is on.
-/
namespace EchonetLite

structure Datagram where
  source : Endpoint
  destination : Endpoint
  payload : Bytes
deriving DecidableEq

def Datagram.sizeLimit : Nat := 65507

structure UnicastSocket where
  interface : Interface
  port : UInt16
deriving DecidableEq

def UnicastSocket.endpoint (s : UnicastSocket) : Endpoint := .ofIpv4 s.interface.address s.port

structure Transport where
  settings : TransportSettings
  unicast : List UnicastSocket := []
  groups : List Interface := []
  listeners : List Endpoint := []
deriving DecidableEq

structure System (σ : Type) where
  bindUnicast : Ipv4 → UInt16 → σ → Except IoFault UInt16 × σ
  joinGroup : (group address : Ipv4) → UInt16 → σ → Except IoFault Unit × σ
  listen : Ipv4 → UInt16 → σ → Except IoFault UInt16 × σ

namespace Transport

def endpoints (t : Transport) : List Endpoint := t.unicast.map UnicastSocket.endpoint

def isOwn (t : Transport) (e : Endpoint) : Bool := t.endpoints.contains e

def groupEndpoint (t : Transport) : Endpoint := .ofIpv4 t.settings.group t.settings.groupPort

/-- The socket through which frames to an endpoint leave: the first whose subnet it is on, or
else the first. -/
def socketFor? (t : Transport) (destination : Endpoint) : Option UnicastSocket :=
  match destination.address with
  | .v4 address => (t.unicast.find? (·.interface.contains address)).or t.unicast.head?
  | .v6 _ => t.unicast.head?

def datagram (t : Transport) (m : Message) (destination : Endpoint) : Except Error Datagram := do
  let payload ← m.encode
  match t.socketFor? destination with
  | some socket => return ⟨socket.endpoint, destination, payload⟩
  | none => .error (.network .noUnicastSocket)

def groupDatagrams (t : Transport) (m : Message) : Except Error (List Datagram) := do
  let payload ← m.encode
  return t.endpoints.map fun source => ⟨source, t.groupEndpoint, payload⟩

def sendOutcome (d : Datagram) : Except IoFault Nat → Except Error Unit
  | .error fault => .error (.network (.sendFailed d.source d.destination fault))
  | .ok sent =>
    if sent = d.payload.length then .ok ()
    else .error (.network (.shortSend d.destination sent d.payload.length))

def groupOutcome (outcomes : List (Except Error Unit)) : Except Error Unit :=
  if outcomes.any (·.isOk) then .ok ()
  else
    match outcomes.getLast? with
    | some (.error e) => .error e
    | _ => .ok ()

variable {σ : Type}

def openInterface (system : System σ) (t : Transport) (i : Interface) (s : σ) :
    Except Error Transport × σ × List BindStep :=
  let joined : Except Error Transport × σ × List BindStep :=
    if t.settings.multicast then
      match Bind.run t.settings t.settings.groupPort false
          (system.joinGroup t.settings.group i.address) s with
      | (.ok (), s, steps) => (.ok { t with groups := t.groups ++ [i] }, s, steps)
      | (.error e, s, steps) => (.error e, s, steps)
    else (.ok t, s, [])
  match joined with
  | (.error e, s, steps) => (.error e, s, steps)
  | (.ok t, s, joinSteps) =>
    match Bind.run t.settings t.settings.port true (system.bindUnicast i.address) s with
    | (.error e, s, steps) => (.error e, s, joinSteps ++ steps)
    | (.ok port, s, bindSteps) =>
      let t : Transport := { t with unicast := t.unicast ++ [UnicastSocket.mk i port] }
      if t.settings.tcp then
        match Bind.run t.settings port false (system.listen i.address) s with
        | (.error e, s, steps) => (.error e, s, joinSteps ++ bindSteps ++ steps)
        | (.ok port, s, steps) =>
          (.ok { t with listeners := t.listeners ++ [Endpoint.ofIpv4 i.address port] }, s,
            joinSteps ++ bindSteps ++ steps)
      else (.ok t, s, joinSteps ++ bindSteps)

def openInterfaces (system : System σ) :
    List Interface → Transport → σ → Except Error Transport × σ × List BindStep
  | [], t, s => (.ok t, s, [])
  | i :: is, t, s =>
    match openInterface system t i s with
    | (.error e, s, steps) => (.error e, s, steps)
    | (.ok t, s, steps) =>
      let (result, s, more) := openInterfaces system is t s
      (result, s, steps ++ more)

def openAll (system : System σ) (known : List Interface) (settings : TransportSettings) (s : σ) :
    Except Error Transport × σ × List BindStep :=
  match Interface.select known settings.interfaces with
  | [] => (.error (.network .noUsableInterface), s, [])
  | is => openInterfaces system is { settings } s

end Transport

end EchonetLite

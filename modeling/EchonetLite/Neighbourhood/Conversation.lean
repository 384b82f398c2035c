import EchonetLite.Neighbourhood.Lifecycle

/-!
Conversations between a node and its peers: connections to the node, and requests of the node,
which its peers answer as a script says.
-/
namespace EchonetLite

structure PeerScript where
  overConnection : Option (Message → List Bytes × Connection.Ending) := none
  asDatagrams : Option (Message → List (Endpoint × Bytes)) := none
  stops : Bool := false

def PeerScript.stopsBefore (script : PeerScript) : Except Error Message → Bool
  | .error (.timeout _) =>
    script.stops && script.overConnection.isSome && script.asDatagrams.isNone
  | _ => false

structure Exchange where
  result : Except Error Message
  overConnection : Option Message := none
  asDatagram : Option Message := none
  alone : Bool := true

namespace Neighbourhood

def caller : Endpoint := .ofIpv4 .localhost 32768

def receiveOver (connection : Nat) : List Message → Neighbourhood → Neighbourhood × List Message
  | [], s => (s, [])
  | m :: ms, s =>
    let (s, answers, ds) :=
      s.receive { message := m, source := caller, route := .connection connection }
    let (s, more) := receiveOver connection ms (s.send ds)
    (s, answers.filter (·.esv != .inf) ++ more)

def serve (s : Neighbourhood) (connection : Nat) (stream : Stream) (bytes : Bytes) :
    Neighbourhood × Stream × List Message × Bool :=
  let (messages, fault, rest) := (stream.feed bytes).drain
  let (s, answers) := receiveOver connection messages s
  let sent := answers.takeWhile (·.encode.isOk)
  (s, rest, sent, fault.isNone && sent.length == answers.length)

def courseOf (s : Neighbourhood) (c : PostCall) (script : PeerScript) :
    Neighbourhood × Connection.Course × Option Message :=
  match s.machine.connect c.destination, c.message.encode with
  | .established, .ok bytes =>
    if c.transport.listeners.contains c.destination then
      let (s, _, answers, isOpen) := s.serve 0 {} bytes
      (s, { frames := answers.map .ok, ending := if isOpen then .silence else .closed }, none)
    else
      match script.overConnection with
      | some answer =>
        let (pieces, ending) := answer c.message
        (s, .ofPieces pieces ending, some c.message)
      | none => (s, { ending := .silence }, none)
  | opening, _ => (s, { opening }, none)

def tryConnection (s : Neighbourhood) (call : Nat) (script : PeerScript) :
    Neighbourhood × Option Message :=
  match s.activity.calls[call]? with
  | some c =>
    match c.stage with
    | .connecting =>
      let (s, course, reached) := s.courseOf c script
      let result :=
        Connection.request c.message c.destination s.node.settings.requestTimeout course
      let s := if script.stopsBefore result then (s.perform .stop).1 else s
      ((s.act (.connectionEnded call result)).1, reached)
    | _ => (s, none)
  | none => (s, none)

def tryDatagram (s : Neighbourhood) (call : Nat) (script : PeerScript) :
    Neighbourhood × Option Message :=
  match s.activity.calls[call]? with
  | some c =>
    match c.stage, c.transport.datagram c.message c.destination with
    | .sending, .ok d =>
      let outcome := Machine.send d
      let (s, _) := s.act (.datagramSent call outcome)
      match outcome, script.asDatagrams with
      | .ok _, some answers =>
        ((answers c.message).foldl
          (fun s (source, payload) => s.send [⟨source, d.source, payload⟩]) s, some c.message)
      | .ok _, none => (s.send [d], none)
      | .error _, _ => (s, none)
    | .sending, .error _ => ((s.act (.datagramSent call (.ok 0))).1, none)
    | _, _ => (s, none)
  | none => (s, none)

def noneWaits (s : Neighbourhood) : Bool :=
  s.activity.calls.all fun c =>
    match c.stage with
    | .waiting => false
    | _ => true

def conclude (s : Neighbourhood) (call : Nat) : Neighbourhood :=
  ((s.act (.resume call)).1.act (.expire call)).1

def postResult (s : Neighbourhood) (call : Nat) : Except Error Message :=
  match s.activity.calls[call]? with
  | some { stage := .finished result, .. } => result
  | _ => .error (.phase .notRunning)

def converse (s : Neighbourhood) (call : Nat) (script : PeerScript) : Neighbourhood × Exchange :=
  let alone := s.noneWaits
  let (s, overConnection) := (s.act (.takeTurn call)).1.tryConnection call script
  let (s, asDatagram) := s.tryDatagram call script
  let s := if script.stops then (s.perform .stop).1 else s
  let s := s.conclude call
  (s, { result := s.postResult call, overConnection, asDatagram, alone })

def postAll (s : Neighbourhood) (ms : List Message) (destination : Endpoint)
    (script : PeerScript) : Neighbourhood × List Exchange :=
  let first := s.activity.calls.length
  let s := ms.foldl (fun s m => (s.act (.post m destination)).1) s
  (List.range ms.length).foldl
    (fun (s, exchanges) i =>
      let (s, exchange) := s.converse (first + i) script
      (s, exchanges ++ [exchange]))
    (s, [])

end Neighbourhood

end EchonetLite

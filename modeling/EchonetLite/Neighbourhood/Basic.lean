import EchonetLite.Net.Machine
import EchonetLite.Node.Activity
import EchonetLite.Node.Controller
import EchonetLite.Node.Reception

/-!
A node among peers. The node and the peers are on one machine, and whatever is sent arrives at
once and in the order of sending. A datagram that reaches the node takes effect before the
datagrams that it causes; the answer to it is sent before what the node has to announce.
-/
namespace EchonetLite

inductive Sight where
  | heard (source : Endpoint) (m : Message)
  | found (node : RemoteNode)
  | event (e : Event)
  | notice (n : Notice)
  | binding (step : BindStep)
  | arrived (peer : Nat) (m : Message)
  | toGroup (m : Message)

structure Neighbourhood where
  activity : Activity
  discovery : Discovery
  discovers : Bool
  machine : Machine
  peers : List Endpoint
  group : Endpoint
  sights : List Sight := []

namespace Neighbourhood

def placePeers (connections : Bool) :
    (count : Nat) → Machine → Except IoFault (List Endpoint × Machine)
  | 0, m => .ok ([], m)
  | count + 1, m =>
    match m.bindUnicast .localhost 0 with
    | (.error fault, _) => .error fault
    | (.ok port, m) =>
      let m := if connections then (m.listen .localhost port).2 else m
      (placePeers connections count m).map fun (es, m) => (.ofIpv4 .localhost port :: es, m)

def create (machine : Machine) (controller : Controller) (discovers : Bool) (peers : Nat)
    (connections : Bool) : Except IoFault Neighbourhood := do
  let transport := controller.node.settings.transport
  let (joined, machine) := machine.joinGroup transport.group .localhost transport.groupPort
  joined
  let (peers, machine) ← placePeers connections peers machine
  return {
    activity := .idle controller.node
    discovery := controller.discovery
    discovers
    machine
    peers
    group := .ofIpv4 transport.group transport.groupPort }

def node (s : Neighbourhood) : LocalNode := s.activity.node

def controller (s : Neighbourhood) : Controller := { node := s.node, discovery := s.discovery }

def setNode (s : Neighbourhood) (node : LocalNode) : Neighbourhood :=
  { s with activity := { s.activity with node } }

def see (s : Neighbourhood) (sights : List Sight) : Neighbourhood :=
  { s with sights := s.sights ++ sights }

def act (s : Neighbourhood) (a : Action) : Neighbourhood × List Observation :=
  match { s.activity with seen := [] }.step a with
  | some activity => ({ s with activity }, activity.seen)
  | none => (s, [])

def groupDatagrams (s : Neighbourhood) (m : Message) : List Datagram :=
  match s.node.groupDatagrams m with
  | .ok ds => ds
  | .error _ => []

def announced (s : Neighbourhood) (seen : List Observation) : List Datagram :=
  seen.flatMap fun
    | .announced m => s.groupDatagrams m
    | _ => []

def announce (s : Neighbourhood) : Neighbourhood × List Datagram :=
  s.node.outbox.queue.foldl
    (fun (s, ds) _ =>
      let (s, seen) := s.act .announce
      (s, ds ++ s.announced seen))
    (s, [])

def hear (s : Neighbourhood) (source : Endpoint) (m : Message) : Neighbourhood :=
  let s := s.see [.heard source m]
  if s.discovers then
    let (discovery, found) := s.discovery.receive source m
    { s with discovery }.see (found.toList.map .found)
  else s

def respond (inbound : Inbound) (s : Neighbourhood) :
    Observation → Neighbourhood × List Message × List Datagram
  | .received inbound => (s.hear inbound.source inbound.message, [], [])
  | .handled _ reaction =>
    (s.see (reaction.events.map .event ++ reaction.notice.toList.map .notice),
      reaction.answer.toList, reaction.answer.toList.flatMap (s.node.answerDatagrams inbound))
  | _ => (s, [], [])

def receive (s : Neighbourhood) (inbound : Inbound) :
    Neighbourhood × List Message × List Datagram :=
  let (s, seen) := s.act (.receive inbound)
  let (s, answers, ds) := seen.foldl
    (fun (s, answers, ds) o =>
      let (s, more, caused) := s.respond inbound o
      (s, answers ++ more, ds ++ caused))
    (s, [], [])
  let (s, announcements) := s.announce
  (s, answers, ds ++ announcements)

def routes (s : Neighbourhood) (d : Datagram) : List Route :=
  match s.node.transport with
  | none => []
  | some t =>
    if d.destination = s.group then t.groups.map fun _ => .group
    else if t.isOwn d.destination then [.datagram]
    else []

def onlookers (s : Neighbourhood) (d : Datagram) (m : Message) : List Sight :=
  if d.destination = s.group then
    if s.node.transport.any (·.isOwn d.source) then [.toGroup m] else []
  else (s.peers.idxOf? d.destination).toList.map (.arrived · m)

def arrive (s : Neighbourhood) (d : Datagram) : Neighbourhood × List Datagram :=
  let seen := match Message.decode d.payload with
    | .ok m => s.onlookers d m
    | .error _ => []
  (s.routes d).foldl
    (fun (s, caused) route =>
      match Inbound.ofDatagram? route d.source d.payload with
      | none => (s, caused)
      | some inbound =>
        let (s, _, ds) := s.receive inbound
        (s, caused ++ ds))
    (s.see seen, [])

def deliver : (rounds : Nat) → List Datagram → Neighbourhood → Neighbourhood
  | 0, _, s => s
  | rounds + 1, ds, s =>
    let (s, caused) := (ds.filter fun d => (Machine.send d).isOk).foldl
      (fun (s, caused) d =>
        let (s, more) := s.arrive d
        (s, caused ++ more))
      (s, [])
    deliver rounds caused s

def send (s : Neighbourhood) (ds : List Datagram) : Neighbourhood := s.deliver 3 ds

def settle (s : Neighbourhood) : Neighbourhood :=
  let (s, ds) := s.announce
  s.send ds

end Neighbourhood

end EchonetLite

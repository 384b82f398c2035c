import EchonetLite.Net.Transport
import EchonetLite.Node.Request

/-!
Hosted nodes. A hosted node has objects, among them its node profile, which it keeps in step with
its devices. It handles messages for its objects, and while it runs it has a transport.
-/
namespace EchonetLite

structure Pending where
  call : Nat
  request : Message
deriving DecidableEq

structure LocalNode where
  settings : NodeSettings
  objects : NodeObjects
  outbox : Outbox := {}
  phase : Phase := .stopped
  transport : Option Transport := none
  pending : Option Pending := none

inductive Route where
  | group
  | datagram
  | connection (number : Nat)
deriving DecidableEq, Repr

structure Inbound where
  message : Message
  source : Endpoint
  route : Route
deriving DecidableEq

structure Reaction where
  answer : Option Message := none
  events : List Event := []
  notice : Option Notice := none

namespace LocalNode

def new (settings : NodeSettings) (serial : Serial) (firstTid : UInt16) : LocalNode :=
  let profile := Object.nodeProfile settings.manufacturer settings.sendOnly serial
  { settings
    objects := { profiles := [{ object := { profile with attached := true } }] }
    outbox := { counter := ⟨if settings.randomFirstTid then firstTid else 0⟩ } }

def nodeProfileCode (n : LocalNode) : ObjectCode := Object.nodeProfileCode n.settings.sendOnly

def adopt (n : LocalNode) (h : HostedObject) : HostedObject :=
  { h with object := { h.object.setManufacturer n.settings.manufacturer with attached := true } }

def addDevice (n : LocalNode) (h : HostedObject) : Except Error LocalNode :=
  if h.code.isProfile then .error (.protocol (.notADevice h.code))
  else .ok { n with objects := (n.objects.addDevice (n.adopt h)).refreshNodeProfile }

def addProfile (n : LocalNode) (h : HostedObject) : Except Error LocalNode :=
  if !h.code.isProfile then .error (.protocol (.notAProfile h.code))
  else .ok { n with objects := (n.objects.addProfile (n.adopt h)).refreshNodeProfile }

def setManufacturer (n : LocalNode) (code : UInt32) (serial : Serial) : LocalNode :=
  let objects := n.objects.map fun h => { h with object := h.object.setManufacturer code }
  { n with objects :=
      objects.modifyNodeProfile (·.store Epc.identification (Object.identification code serial)) }

def property? (n : LocalNode) (code : ObjectCode) (epc : UInt8) : Option Property :=
  (n.objects.find? code).bind (·.object.property? epc)

def setData (n : LocalNode) (code : ObjectCode) (epc : UInt8) (data : Bytes) :
    Except Error Unit × LocalNode :=
  match n.objects.find? code with
  | none => (.error (.protocol (.noObject code)), n)
  | some h =>
    let (result, o, outbox) := h.object.write epc data n.outbox
    (result, { n with objects := n.objects.modify code fun h => { h with object := o }, outbox })

def issueTid (n : LocalNode) : LocalNode := { n with outbox := n.outbox.issueTid }

def lastTid (n : LocalNode) : UInt16 := n.outbox.counter.last

def instanceListNotification (n : LocalNode) : Message × LocalNode :=
  let data := (n.objects.nodeProfile?.bind (·.object.data? Epc.announcedInstances)).getD []
  let n := n.issueTid
  ({ tid := n.lastTid, seoj := n.nodeProfileCode, deoj := .nodeProfile, esv := .inf,
     entries := [⟨Epc.announcedInstances, data⟩] }, n)

def handle (n : LocalNode) (m : Message) : LocalNode × Reaction :=
  let handled := n.objects.handle m n.outbox
  ({ n with objects := handled.objects, outbox := handled.outbox },
    { answer := handled.answer, events := handled.events, notice := handled.notice })

def isRunning (n : LocalNode) : Bool := n.outbox.running

def openTransport (n : LocalNode) : Except Error Transport :=
  match n.transport with
  | some t => .ok t
  | none => .error (.phase .notRunning)

def datagram (n : LocalNode) (m : Message) (destination : Endpoint) : Except Error Datagram := do
  (← n.openTransport).datagram m destination

def groupDatagrams (n : LocalNode) (m : Message) : Except Error (List Datagram) := do
  (← n.openTransport).groupDatagrams m

def awaitProperty (wait : Duration) (look : Nat → Option Property) : Option Property × Nat :=
  let pause := (wait.dividedBy 10).timerMillis
  let times := (List.range 11).map (pause * ·)
  match times.find? fun t => (look t).isSome with
  | some t => (look t, t)
  | none => (none, 10 * pause)

structure Processed where
  node : LocalNode
  delivered : Bool := false
  completed : Option Nat := none
  reaction : Reaction := {}

/-- Processes a message that arrived. Messages from the node's own endpoints are dropped unless
the settings accept them. A message that is no request and answers the pending request completes
the call that made it; every other message is handled. -/
def process (n : LocalNode) (inbound : Inbound) : Processed :=
  match n.transport with
  | none => { node := n }
  | some t =>
    if !t.settings.acceptOwn && t.isOwn inbound.source then { node := n }
    else
      let waiting := n.pending.filter fun p =>
        !inbound.message.esv.isRequest && inbound.message.answers p.request
      match waiting with
      | some p =>
        { node := { n with pending := none }, delivered := true, completed := some p.call }
      | none =>
        let (n, reaction) := n.handle inbound.message
        { node := n, delivered := true, reaction }

end LocalNode

end EchonetLite

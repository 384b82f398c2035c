import EchonetLite.Node.Lifecycle
import EchonetLite.Node.Posting

/-!
What may happen at the same time on one node: calls that post requests, calls that start and stop
the node, messages that arrive, changes of data, and announcements that are sent. Each call passes
through stages; an action takes one call from one stage to the next, or lets one other thing happen,
and nothing comes between. A run is a sequence of actions, in any order that the stages allow.
-/
namespace EchonetLite

inductive Mailbox where
  | empty
  | answered (m : Message)
  | closed
deriving DecidableEq, Repr

inductive PostStage where
  | queued
  | connecting
  | sending
  | waiting
  | finished (result : Except Error Message)

structure PostCall where
  message : Message
  destination : Endpoint
  transport : Transport
  stage : PostStage := .queued
  mailbox : Mailbox := .empty

inductive LifecycleStage where
  | opening
  | announcing (m : Message)
  | closing
  | discarding
  | returned (result : Except Error Unit)

inductive Observation where
  | refused (m : Message) (e : Error)
  | requestSent (call : Nat) (request : Message)
  | requestConnected (call : Nat) (request : Message)
  | received (inbound : Inbound)
  | completed (call : Nat) (answer : Message)
  | handled (m : Message) (reaction : Reaction)
  | announced (m : Message)
  | returned (call : Nat) (result : Except Error Message)

/-- A node with the calls on it. Calls have the number of their place in the list; the call that
has the turn is the only one past its queue. While the node runs, the announcer sends what the
node has to announce. -/
structure Activity where
  node : LocalNode
  calls : List PostCall := []
  turn : Option Nat := none
  lifecycle : List LifecycleStage := []
  announcer : Option Transport := none
  seen : List Observation := []

inductive Action where
  | post (m : Message) (destination : Endpoint)
  | takeTurn (call : Nat)
  | connectionEnded (call : Nat) (result : Except Error Message)
  | datagramSent (call : Nat) (outcome : Except IoFault Nat)
  | expire (call : Nat)
  | resume (call : Nat)
  | receive (inbound : Inbound)
  | write (object : ObjectCode) (epc : UInt8) (data : Bytes)
  | issueTid
  | announce
  | start
  | opened (call : Nat) (result : Except Error Transport)
  | startAnnounced (call : Nat)
  | stop
  | closed (call : Nat)
  | discarded (call : Nat)

namespace PostStage

def isQueued : PostStage → Bool
  | queued => true
  | _ => false

end PostStage

namespace Activity

def observe (s : Activity) (o : Observation) : Activity := { s with seen := s.seen ++ [o] }

def setStage (s : Activity) (call : Nat) (stage : PostStage) : Activity :=
  { s with calls := s.calls.modify call fun c => { c with stage } }

def fill (s : Activity) (call : Nat) (mailbox : Mailbox) : Activity :=
  { s with calls := s.calls.modify call fun c =>
      if c.mailbox = .empty then { c with mailbox } else c }

def finish (s : Activity) (call : Nat) (result : Except Error Message) : Activity :=
  { s.setStage call (.finished result) with turn := none }.observe (.returned call result)

def finishRegistered (s : Activity) (call : Nat) (result : Except Error Message) : Activity :=
  { s with node := s.node.clearPending }.finish call result

def register (s : Activity) (call : Nat) (request : Message) : Activity :=
  { s with node := s.node.register call request }.setStage call .sending

def setLifecycle (s : Activity) (call : Nat) (stage : LifecycleStage) : Activity :=
  { s with lifecycle := s.lifecycle.set call stage }

def addLifecycle (s : Activity) (stage : LifecycleStage) : Activity :=
  { s with lifecycle := s.lifecycle ++ [stage] }

def firstQueued? (s : Activity) : Option Nat := s.calls.findIdx? (·.stage.isQueued)

def beginPost (s : Activity) (m : Message) (destination : Endpoint) : Activity :=
  match s.node.openTransport with
  | .error e => s.observe (.refused m e)
  | .ok transport => { s with calls := s.calls ++ [{ message := m, destination, transport }] }

def giveTurn (s : Activity) (call : Nat) : Option Activity :=
  match s.turn, s.calls[call]? with
  | none, some c =>
    if s.firstQueued? = some call then
      let (request, node) := s.node.takeTurn c.message
      let s := { s with
        node
        turn := some call
        calls := s.calls.modify call fun c => { c with message := request } }
      some (if c.transport.settings.tcp then s.setStage call .connecting
        else s.register call request)
    else none
  | _, _ => none

def endConnection (s : Activity) (call : Nat) (result : Except Error Message) : Option Activity :=
  match s.calls[call]? with
  | some { stage := .connecting, message, .. } =>
    match result with
    | .ok answer =>
      some ((s.observe (.requestConnected call message)).finish call (.ok answer))
    | .error _ => some (s.register call message)
  | _ => none

def endSending (s : Activity) (call : Nat) (outcome : Except IoFault Nat) : Option Activity :=
  match s.calls[call]? with
  | some { stage := .sending, message, destination, transport, .. } =>
    match transport.datagram message destination with
    | .error e => some (s.finishRegistered call (.error e))
    | .ok d =>
      match Transport.sendOutcome d outcome with
      | .error e => some (s.finishRegistered call (.error e))
      | .ok () => some ((s.observe (.requestSent call message)).setStage call .waiting)
  | _ => none

def expire (s : Activity) (call : Nat) : Option Activity :=
  match s.calls[call]? with
  | some { stage := .waiting, mailbox := .empty, .. } =>
    some (s.finishRegistered call (.error (.timeout s.node.settings.requestTimeout)))
  | _ => none

def resume (s : Activity) (call : Nat) : Option Activity :=
  match s.calls[call]? with
  | some { stage := .waiting, mailbox := .answered m, .. } =>
    some (s.finishRegistered call (.ok m))
  | some { stage := .waiting, mailbox := .closed, .. } =>
    some (s.finishRegistered call (.error (.phase .stoppedWhileWaiting)))
  | _ => none

def receive (s : Activity) (inbound : Inbound) : Activity :=
  let processed := s.node.process inbound
  let s := { s with node := processed.node }
  if processed.delivered then
    let s := s.observe (.received inbound)
    match processed.completed with
    | some call =>
      (s.fill call (.answered inbound.message)).observe (.completed call inbound.message)
    | none => s.observe (.handled inbound.message processed.reaction)
  else s

def write (s : Activity) (object : ObjectCode) (epc : UInt8) (data : Bytes) : Activity :=
  { s with node := (s.node.setData object epc data).2 }

def announce (s : Activity) : Option Activity :=
  match s.announcer, s.node.outbox.queue with
  | some _, m :: queue =>
    some ({ s with node := { s.node with outbox := { s.node.outbox with queue } } }.observe
      (.announced m))
  | _, _ => none

def beginStart (s : Activity) : Activity :=
  match s.node.beginStart with
  | .error e => s.addLifecycle (.returned (.error e))
  | .ok node => { s with node }.addLifecycle .opening

def endOpening (s : Activity) (call : Nat) (result : Except Error Transport) : Option Activity :=
  match s.lifecycle[call]? with
  | some .opening =>
    match result with
    | .error e =>
      some ({ s with node := s.node.failStart }.setLifecycle call (.returned (.error e)))
    | .ok t =>
      let (m, node) := s.node.completeStart t
      some ({ s with node, announcer := some t }.setLifecycle call (.announcing m))
  | _ => none

def endStart (s : Activity) (call : Nat) : Option Activity :=
  match s.lifecycle[call]? with
  | some (.announcing m) =>
    some ((s.observe (.announced m)).setLifecycle call (.returned (.ok ())))
  | _ => none

def beginStop (s : Activity) : Activity :=
  match s.node.beginStop with
  | .error e => s.addLifecycle (.returned (.error e))
  | .ok none => s.addLifecycle (.returned (.ok ()))
  | .ok (some node) => { s with node }.addLifecycle .closing

def endClosing (s : Activity) (call : Nat) : Option Activity :=
  match s.lifecycle[call]? with
  | some .closing =>
    let s := match s.node.pending with
      | some p => s.fill p.call .closed
      | none => s
    some ({ s with node := s.node.dropPending, announcer := none }.setLifecycle call .discarding)
  | _ => none

def endStop (s : Activity) (call : Nat) : Option Activity :=
  match s.lifecycle[call]? with
  | some .discarding =>
    some ({ s with node := s.node.finishStop }.setLifecycle call (.returned (.ok ())))
  | _ => none

def step (s : Activity) : Action → Option Activity
  | .post m destination => some (s.beginPost m destination)
  | .takeTurn call => s.giveTurn call
  | .connectionEnded call result => s.endConnection call result
  | .datagramSent call outcome => s.endSending call outcome
  | .expire call => s.expire call
  | .resume call => s.resume call
  | .receive inbound => some (s.receive inbound)
  | .write object epc data => some (s.write object epc data)
  | .issueTid => some { s with node := s.node.issueTid }
  | .announce => s.announce
  | .start => some s.beginStart
  | .opened call result => s.endOpening call result
  | .startAnnounced call => s.endStart call
  | .stop => some s.beginStop
  | .closed call => s.endClosing call
  | .discarded call => s.endStop call

def run (s : Activity) : List Action → Option Activity
  | [] => some s
  | a :: rest => (s.step a).bind fun s => s.run rest

def idle (node : LocalNode) : Activity := { node, announcer := node.transport }

end Activity

end EchonetLite

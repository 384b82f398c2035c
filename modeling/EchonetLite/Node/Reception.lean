import EchonetLite.Node.Activity

/-!
Datagrams that arrive at a node. A datagram that holds no frame is passed over; bytes behind the
frame are ignored.

While a node runs, each of its datagram sockets is read by a loop of its own. The loops put the
messages into one queue, from which the dispatcher takes them, and each message gets a task that
processes and answers it. Loops, dispatcher and tasks take turns in any order.
-/
namespace EchonetLite

def Inbound.ofDatagram? (route : Route) (source : Endpoint) (payload : Bytes) : Option Inbound :=
  match Message.decode (payload.take Datagram.sizeLimit) with
  | .ok message => some { message, source, route }
  | .error _ => none

namespace LocalNode

def answerDatagrams (n : LocalNode) (inbound : Inbound) (answer : Message) : List Datagram :=
  if answer.esv = .inf then
    match n.groupDatagrams answer with
    | .ok ds => ds
    | .error _ => []
  else
    match inbound.route with
    | .connection _ => []
    | _ =>
      match n.datagram answer inbound.source with
      | .ok d => [d]
      | .error _ => []

end LocalNode

/-- A loop that reads a datagram socket, and the datagrams that it has still to read. All of them
are read into one buffer, which keeps what the last ones left in it. -/
structure Receiver where
  route : Route
  incoming : List (Endpoint × Bytes) := []
  buffer : Bytes := List.replicate Datagram.sizeLimit 0
  held : Option Inbound := none
  ended : Bool := false

namespace Receiver

def isReading (r : Receiver) : Bool := !r.ended && r.held.isNone

def read (r : Receiver) : Option Receiver :=
  match r.isReading, r.incoming with
  | true, (source, payload) :: incoming =>
    let received := payload.take Datagram.sizeLimit
    let buffer := received ++ r.buffer.drop received.length
    let r := { r with incoming, buffer }
    match Message.decode (buffer.take received.length) with
    | .ok message => some { r with held := some { message, source, route := r.route } }
    | .error _ => some r
  | _, _ => none

def release (r : Receiver) : Receiver := { r with held := none }

def close (r : Receiver) : Receiver := { r with held := none, ended := true }

end Receiver

inductive ReceptionTask where
  | begun (inbound : Inbound)
  | answering (left : List Datagram)

structure Reception where
  activity : Activity
  receivers : List Receiver
  queue : List Inbound := []
  dispatching : Bool := true
  tasks : List ReceptionTask := []
  sent : List Datagram := []

namespace Reception

inductive Step where
  | read (receiver : Nat)
  | interrupted (receiver : Nat)
  | ended (receiver : Nat)
  | handOver (receiver : Nat)
  | fromConnection (inbound : Inbound)
  | dispatch
  | dispatcherEnded
  | work (task : Nat)
  | act (a : Action)

def queueLimit : Nat := 256

def setReceiver (s : Reception) (i : Nat) (r : Receiver) : Reception :=
  { s with receivers := s.receivers.set i r }

def read (s : Reception) (i : Nat) : Option Reception :=
  s.receivers[i]?.bind fun r => r.read.map (s.setReceiver i)

def interrupt (s : Reception) (i : Nat) : Option Reception :=
  s.receivers[i]?.bind fun r => if r.isReading then some s else none

def endReceiver (s : Reception) (i : Nat) : Option Reception :=
  s.receivers[i]?.bind fun r => if r.isReading then some (s.setReceiver i r.close) else none

def enqueue (s : Reception) (inbound : Inbound) : Option Reception :=
  if s.dispatching ∧ s.queue.length < queueLimit then
    some { s with queue := s.queue ++ [inbound] }
  else none

def handOver (s : Reception) (i : Nat) : Option Reception :=
  s.receivers[i]?.bind fun r => r.held.bind fun inbound =>
    if s.dispatching then (s.setReceiver i r.release).enqueue inbound
    else some (s.setReceiver i r.close)

def dispatch (s : Reception) : Option Reception :=
  match s.dispatching, s.queue with
  | true, inbound :: queue => some { s with queue, tasks := s.tasks ++ [.begun inbound] }
  | _, _ => none

def endDispatcher (s : Reception) : Reception := { s with dispatching := false, queue := [] }

def work (s : Reception) (task : Nat) : Option Reception :=
  match s.tasks[task]? with
  | some (.begun inbound) =>
    let activity := s.activity.receive inbound
    let left := (s.activity.node.process inbound).reaction.answer.toList.flatMap
      (activity.node.answerDatagrams inbound)
    some { s with activity, tasks := s.tasks.set task (.answering left) }
  | some (.answering (d :: left)) =>
    some { s with tasks := s.tasks.set task (.answering left), sent := s.sent ++ [d] }
  | _ => none

def step (s : Reception) : Step → Option Reception
  | .read i => s.read i
  | .interrupted i => s.interrupt i
  | .ended i => s.endReceiver i
  | .handOver i => s.handOver i
  | .fromConnection inbound => s.enqueue inbound
  | .dispatch => s.dispatch
  | .dispatcherEnded => some s.endDispatcher
  | .work task => s.work task
  | .act a => (s.activity.step a).map fun activity => { s with activity }

def run (s : Reception) : List Step → Option Reception
  | [] => some s
  | a :: rest => (s.step a).bind fun s => s.run rest

end Reception

end EchonetLite

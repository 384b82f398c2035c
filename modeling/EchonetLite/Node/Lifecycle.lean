import EchonetLite.Node.Local

/-!
Starting and stopping a node. Each takes several steps between which other things may happen to the
node; each step is a function on the node. A start checks the settings, waits for the sockets, and
then either leaves the node stopped or sets it running. A stop takes the transport away, waits for
the work in progress to end, gives up the pending request, and discards what was not announced.
-/
namespace EchonetLite.LocalNode

def beginStart (n : LocalNode) : Except Error LocalNode :=
  match n.settings.check with
  | .error e => .error e
  | .ok () =>
    if n.phase = .stopped then .ok { n with phase := .starting }
    else .error (.phase (.cannotStart n.phase))

def failStart (n : LocalNode) : LocalNode := { n with phase := .stopped }

def completeStart (n : LocalNode) (t : Transport) : Message × LocalNode :=
  instanceListNotification
    { n with transport := some t, outbox := { n.outbox with running := true }, phase := .running }

def beginStop (n : LocalNode) : Except Error (Option LocalNode) :=
  match n.phase with
  | .stopped => .ok none
  | .running =>
    .ok (some
      { n with
        phase := .stopping
        transport := none
        outbox := { n.outbox with running := false } })
  | phase => .error (.phase (.cannotStop phase))

def dropPending (n : LocalNode) : LocalNode := { n with pending := none }

def finishStop (n : LocalNode) : LocalNode :=
  { n with outbox := { n.outbox with queue := [] }, phase := .stopped }

def start (n : LocalNode) (opened : Except Error Transport) :
    Except Error (Message × LocalNode) × LocalNode :=
  match n.beginStart with
  | .error e => (.error e, n)
  | .ok starting =>
    match opened with
    | .error e => (.error e, starting.failStart)
    | .ok t =>
      let (m, running) := starting.completeStart t
      (.ok (m, running), running)

def stop (n : LocalNode) : Except Error LocalNode :=
  match n.beginStop with
  | .error e => .error e
  | .ok none => .ok n
  | .ok (some stopping) => .ok stopping.dropPending.finishStop

end EchonetLite.LocalNode

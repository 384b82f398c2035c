import EchonetLite.Net.Connection
import EchonetLite.Node.Local

/-!
What posting a request does to a node. The request gets the next transaction identifier with its
turn, and only one request of a node waits for its answer at a time.
-/
namespace EchonetLite.LocalNode

def takeTurn (n : LocalNode) (m : Message) : Message × LocalNode :=
  let n := n.issueTid
  ({ m with tid := n.lastTid }, n)

def register (n : LocalNode) (call : Nat) (request : Message) : LocalNode :=
  { n with pending := some { call, request } }

def clearPending (n : LocalNode) : LocalNode := { n with pending := none }

end EchonetLite.LocalNode

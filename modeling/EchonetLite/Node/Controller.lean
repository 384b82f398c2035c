import EchonetLite.Node.Local
import EchonetLite.Node.Remote

/-!
Controllers. A controller is a hosted node that looks for other nodes and keeps those it finds,
each endpoint once, as it was first described.
-/
namespace EchonetLite

structure Discovery where
  database : Database := {}
  nodes : List RemoteNode := []

namespace Discovery

def receive (d : Discovery) (source : Endpoint) (m : Message) : Discovery × Option RemoteNode :=
  match RemoteNode.ofMessage? source m d.database with
  | none => (d, none)
  | some node =>
    if d.nodes.any node.isSame then (d, none)
    else ({ d with nodes := d.nodes ++ [node] }, some node)

def find? (d : Discovery) (endpoint : Endpoint) : Option RemoteNode :=
  d.nodes.find? (·.endpoint == endpoint)

end Discovery

structure Controller where
  node : LocalNode
  discovery : Discovery

namespace Controller

def new (settings : NodeSettings) (database : Database) (serial : Serial) (firstTid : UInt16) :
    Except Error Controller := do
  let node ← (LocalNode.new settings serial firstTid).addDevice
    { object := .device .controller }
  return { node, discovery := { database } }

def searchAll (c : Controller) : Message × Controller :=
  let node := c.node.issueTid
  ({ Message.readRequest .controller .nodeProfile [Epc.instanceList] with tid := node.lastTid },
    { c with node })

def search (c : Controller) (objectClass : ClassCode) : Message × Controller :=
  let node := c.node.issueTid
  ({ Message.readRequest .controller (objectClass.object 0) [Epc.operationStatus] with
      tid := node.lastTid },
    { c with node })

end Controller

end EchonetLite

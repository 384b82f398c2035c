import EchonetLite.Database
import EchonetLite.Node.Objects

/-!
Nodes on the network, as their instance lists describe them. A node is known by its endpoint; its
objects are made from the templates of their classes.
-/
namespace EchonetLite

structure RemoteNode where
  endpoint : Endpoint
  objects : NodeObjects := {}

namespace RemoteNode

def carriesInstances (s : Service) : Bool := s.isNotification || s == .getRes

def instanceData? (m : Message) : Option Bytes :=
  if m.seoj.isNodeProfile && carriesInstances m.esv then
    (((m.entry? Epc.instanceList).or (m.entry? Epc.announcedInstances)).filter
      fun e => decide (0 < e.pdc)).map Entry.edt
  else none

def ofMessage? (source : Endpoint) (m : Message) (db : Database) : Option RemoteNode :=
  (instanceData? m).map fun data =>
    let codes := m.seoj :: InstanceList.decode data
    { endpoint := source
      objects := codes.foldl (fun objects code => objects.add { object := db.createObject code }) {} }

def isSame (x y : RemoteNode) : Bool := x.endpoint == y.endpoint

def text (n : RemoteNode) : String :=
  n.endpoint.text ++ " (" ++ ", ".intercalate (n.objects.toList.map (·.code.text)) ++ ")"

end RemoteNode

end EchonetLite

import EchonetLite.Message
import EchonetLite.Object.NodeProfile
import EchonetLite.TransactionCounter

/-!
Announcements of changes. A running node announces each change of an announceable property of an
attached object: one notification to all node profiles, with the next transaction identifier. The
outbox holds the counter, the announcements that wait to be sent, and whether the node runs.
-/
namespace EchonetLite

structure Outbox where
  running : Bool := false
  counter : TransactionCounter := {}
  queue : List Message := []
deriving DecidableEq

namespace Outbox

def issueTid (out : Outbox) : Outbox := { out with counter := out.counter.advance }

def notification (tid : UInt16) (source : ObjectCode) (entry : Entry) : Message :=
  { tid, seoj := source, deoj := .nodeProfile, esv := .inf, entries := [entry] }

def announce (out : Outbox) (source : ObjectCode) (entry : Entry) : Outbox :=
  if out.running then
    let out := out.issueTid
    { out with queue := out.queue ++ [notification out.counter.last source entry] }
  else out

end Outbox

def Object.write (o : Object) (epc : UInt8) (data : Bytes) (out : Outbox) :
    Except Error Unit × Object × Outbox :=
  match o.property? epc with
  | none => (.error (.protocol (.noProperty o.code epc)), o, out)
  | some p =>
    (.ok (), o.store epc data,
      if o.attached && p.isAnnounceable then out.announce o.code ⟨epc, data⟩ else out)

end EchonetLite

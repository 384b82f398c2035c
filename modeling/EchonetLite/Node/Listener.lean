import EchonetLite.Node.Outbox

/-!
Listeners of objects. A listener is asked about every entry of a request that passed the checks. It
may change the object and says whether it accepts the entry. A few listeners are ready made.
-/
namespace EchonetLite

structure Listener where
  respond : Service → Entry → Object → Outbox → Bool × Object × Outbox

namespace Listener

def writing (epc : UInt8) (data : Bytes) (o : Object) (out : Outbox) : Bool × Object × Outbox :=
  let (result, o, out) := o.write epc data out
  (result.isOk, o, out)

def accept : Listener := ⟨fun _ _ o out => (true, o, out)⟩

def reject : Listener := ⟨fun _ _ o out => (false, o, out)⟩

def rejectWrites : Listener := ⟨fun esv _ o out => (!esv.isWriteClass, o, out)⟩

def rejectProperty (epc : UInt8) : Listener := ⟨fun esv e o out =>
  if e.epc == epc then (false, o, out)
  else if esv.isWriteClass then (true, (writing e.epc e.edt o out).2)
  else (true, o, out)⟩

def applyWrites : Listener := ⟨fun esv e o out =>
  if esv.isWriteClass then writing e.epc e.edt o out else (true, o, out)⟩

def copyTo (epc : UInt8) : Listener := ⟨fun _ e o out => writing epc e.edt o out⟩

def reverse : Listener := ⟨fun _ e o out => writing e.epc e.edt.reverse o out⟩

def noteIn (epc : UInt8) : Listener := ⟨fun _ e o out =>
  let (result, o) := o.add epc .readWriteAnnounce [e.epc]
  (result.isOk, o, out)⟩

end Listener

end EchonetLite

import EchonetLite.Neighbourhood.Basic

/-!
Starting and stopping a node among its peers. A call goes on by itself until it has to wait: a stop
waits for the work in progress to end, a start waits only between two attempts to bind a port.
-/
namespace EchonetLite

inductive LifecycleCall where
  | start
  | stop
deriving DecidableEq, Repr

namespace Neighbourhood

def opening (s : Neighbourhood) : Except Error Transport × Machine × List BindStep :=
  Transport.openAll Machine.system [] s.node.settings.transport s.machine

def finishStart (s : Neighbourhood) (call : Nat) : Neighbourhood :=
  let (result, machine, steps) := s.opening
  let s := { s with machine := if result.isOk then machine else s.machine }
  let (s, _) := (s.see (steps.map .binding)).act (.opened call result)
  let (s, seen) := s.act (.startAnnounced call)
  s.send (s.announced seen)

def finishCall (s : Neighbourhood) (call : Nat) : Neighbourhood :=
  match s.activity.lifecycle[call]? with
  | some .opening => s.finishStart call
  | some .closing => (((s.act (.closed call)).1).act (.discarded call)).1
  | _ => s

def beginCall (s : Neighbourhood) : LifecycleCall → Neighbourhood × Nat
  | .start =>
    let call := s.activity.lifecycle.length
    let (s, _) := s.act .start
    let waits := s.opening.2.2.any fun
      | .waited _ => true
      | _ => false
    (if waits then s else s.finishCall call, call)
  | .stop =>
    let call := s.activity.lifecycle.length
    let machine := s.node.transport.elim s.machine s.machine.close
    (({ s with machine }.act .stop).1, call)

def lifecycleResult (s : Neighbourhood) (call : Nat) : Except Error Unit :=
  match s.activity.lifecycle[call]? with
  | some (.returned result) => result
  | _ => .ok ()

def perform (s : Neighbourhood) (c : LifecycleCall) : Neighbourhood × Except Error Unit :=
  let (s, call) := s.beginCall c
  let s := s.finishCall call
  (s, s.lifecycleResult call)

def performBoth (s : Neighbourhood) (first second : LifecycleCall) :
    Neighbourhood × Except Error Unit × Except Error Unit :=
  let (s, i) := s.beginCall first
  let (s, j) := s.beginCall second
  let s := (s.finishCall i).finishCall j
  (s, s.lifecycleResult i, s.lifecycleResult j)

end Neighbourhood

end EchonetLite

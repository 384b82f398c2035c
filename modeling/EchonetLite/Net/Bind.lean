import EchonetLite.Settings.Basic

/-!
Binding a port. A port is tried a number of times with a wait between the attempts; a node may go
on to the ports above it. The outcome of an attempt is up to the system, which may remember the
attempts made before.
-/
namespace EchonetLite

inductive BindStep where
  | failed (port : UInt16) (attempt attempts : Nat) (fault : IoFault)
  | waited (wait : Duration)
  | bound (port : UInt16)
deriving DecidableEq, Repr

def BindStep.text? : BindStep → Option String
  | failed port attempt attempts fault =>
    some ("[NET] bind on port " ++ toString port.toNat ++ " failed (attempt " ++
      toString attempt ++ "/" ++ toString attempts ++ "): " ++ fault.text)
  | _ => none

structure BindOutcome (σ α : Type) where
  result : Except IoFault α
  system : σ
  steps : List BindStep

namespace Bind

variable {σ α : Type}

def onPort (wait : Duration) (attempts : Nat) (port : UInt16)
    (bind : UInt16 → σ → Except IoFault α × σ) :
    (left attempt : Nat) → σ → BindOutcome σ α
  | 0, attempt, s =>
    match bind port s with
    | (.ok x, s) => ⟨.ok x, s, [.bound port]⟩
    | (.error fault, s) => ⟨.error fault, s, [.failed port attempt attempts fault]⟩
  | left + 1, attempt, s =>
    match bind port s with
    | (.ok x, s) => ⟨.ok x, s, [.bound port]⟩
    | (.error fault, s) =>
      let rest := onPort wait attempts port bind left (attempt + 1) s
      { rest with steps := .failed port attempt attempts fault :: .waited wait :: rest.steps }

def onPorts (wait : Duration) (attempts : Nat)
    (bind : UInt16 → σ → Except IoFault α × σ) :
    List UInt16 → (last : Option IoFault) → σ →
      Except (Option IoFault) α × σ × List BindStep
  | [], last, s => (.error last, s, [])
  | port :: ports, _, s =>
    let here := onPort wait attempts port bind (attempts - 1) 1 s
    match here.result with
    | .ok x => (.ok x, here.system, here.steps)
    | .error fault =>
      let (result, s, steps) := onPorts wait attempts bind ports (some fault) here.system
      (result, s, here.steps ++ steps)

def candidates (port : UInt16) (count : Nat) : List UInt16 :=
  (List.range (min count (65536 - port.toNat))).map fun i => UInt16.ofNat (port.toNat + i)

def portCount (s : TransportSettings) (port : UInt16) (stepPorts : Bool) : Nat :=
  if stepPorts && s.stepPorts && port != 0 then max s.portLimit.toNat 1 else 1

def attemptCount (s : TransportSettings) : Nat := max s.bindAttempts 1

def run (s : TransportSettings) (port : UInt16) (stepPorts : Bool)
    (bind : UInt16 → σ → Except IoFault α × σ) (system : σ) :
    Except Error α × σ × List BindStep :=
  match onPorts s.bindWait (attemptCount s) bind (candidates port (portCount s port stepPorts))
      none system with
  | (.ok x, system, steps) => (.ok x, system, steps)
  | (.error last, system, steps) => (.error (.network (.bindFailed port last)), system, steps)

end Bind

end EchonetLite

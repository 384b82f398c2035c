import EchonetLite.Error

/-!
Settings of a node and of its transport, with the values they have when nothing is said, and the
checks that they must pass before a node starts.
-/
namespace EchonetLite

structure TransportSettings where
  port : UInt16 := 3610
  group : Ipv4 := .nodeGroup
  interfaces : List Ipv4 := []
  multicast : Bool := true
  tcp : Bool := false
  acceptOwn : Bool := false
  bindAttempts : Nat := 5
  bindWait : Duration := .ofMillis 500
  stepPorts : Bool := false
  portLimit : UInt16 := 10
  connectTimeout : Duration := .ofSeconds 2
deriving DecidableEq

structure NodeSettings where
  transport : TransportSettings := {}
  requestTimeout : Duration := .ofSeconds 3
  manufacturer : UInt32 := 0xFFFFFF
  randomFirstTid : Bool := false
  sendOnly : Bool := false
deriving DecidableEq

namespace TransportSettings

def standardPort : UInt16 := 3610

def loopback : TransportSettings :=
  { port := 0, interfaces := [.localhost], multicast := false, bindAttempts := 1 }

def fault? (s : TransportSettings) : Option SettingsFault :=
  if !s.group.isMulticast then some (.notAGroup s.group)
  else if s.interfaces.any Ipv4.isMulticast then some .groupAsInterface
  else none

def check (s : TransportSettings) : Except Error Unit :=
  match s.fault? with
  | some fault => .error (.settings fault)
  | none => .ok ()

def groupPort (s : TransportSettings) : UInt16 := if s.port = 0 then standardPort else s.port

end TransportSettings

namespace NodeSettings

def manufacturerLimit : UInt32 := 0xFFFFFF

def fault? (s : NodeSettings) : Option SettingsFault :=
  if manufacturerLimit < s.manufacturer then some (.manufacturerCodeTooWide s.manufacturer.toNat)
  else if s.requestTimeout.nanos = 0 then some .noRequestTimeout
  else s.transport.fault?

def check (s : NodeSettings) : Except Error Unit :=
  match s.fault? with
  | some fault => .error (.settings fault)
  | none => .ok ()

end NodeSettings

end EchonetLite

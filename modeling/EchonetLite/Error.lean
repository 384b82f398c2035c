import EchonetLite.Duration
import EchonetLite.ObjectCode
import EchonetLite.Net.Address
import EchonetLite.Node.Phase

/-!
What can go wrong. An error is a cause; its text is a function of the cause. Each kind of error
also admits a fault in the words of whoever reports it.
-/
namespace EchonetLite

inductive Stage where
  | header
  | tid
  | seoj
  | deoj
  | esv
  | opc
  | propertyCode
  | propertyDataCounter
  | propertyData
  | named (name : String)
deriving DecidableEq, Repr

inductive FrameFault where
  | firstByte (found : UInt8)
  | secondByte (found : UInt8)
  | reported (text : String)
deriving DecidableEq, Repr

inductive ProtocolFault where
  | tooManyEntries (count : Nat)
  | dataTooLong (epc : UInt8) (length : Nat)
  | codeTooLow (epc : UInt8)
  | noProperty (object : ObjectCode) (epc : UInt8)
  | noObject (object : ObjectCode)
  | notADevice (object : ObjectCode)
  | notAProfile (object : ObjectCode)
  | emptyPropertyMap
  | shortCodeList (listed carried : Nat)
  | shortBitmap (length : Nat)
  | reported (text : String)
deriving DecidableEq, Repr

inductive SystemFault where
  | addressInUse
  | addressNotAvailable
  | noSuchDevice
  | numbered (code : Nat) (text : String)
deriving DecidableEq, Repr

inductive IoFault where
  | bytesRemaining
  | system (fault : SystemFault)
  | reported (text : String)
deriving DecidableEq, Repr

inductive NetworkFault where
  | bindFailed (port : UInt16) (last : Option IoFault)
  | noUsableInterface
  | noUnicastSocket
  | sendFailed (source destination : Endpoint) (fault : IoFault)
  | shortSend (destination : Endpoint) (sent size : Nat)
  | connectTimedOut (destination : Endpoint)
  | connectFailed (destination : Endpoint) (fault : IoFault)
  | closedBeforeResponse (destination : Endpoint)
  | connectionClosed (destination : Endpoint)
  | reported (text : String)
deriving DecidableEq

inductive SettingsFault where
  | manufacturerCodeTooWide (code : Nat)
  | noRequestTimeout
  | notAGroup (address : Ipv4)
  | groupAsInterface
  | reported (text : String)
deriving DecidableEq, Repr

inductive PhaseFault where
  | notRunning
  | cannotStart (phase : Phase)
  | cannotStop (phase : Phase)
  | stoppedWhileWaiting
  | reported (text : String)
deriving DecidableEq, Repr

inductive Error where
  | io (fault : IoFault)
  | malformedFrame (fault : FrameFault)
  | shortMessage (stage : Stage) (needed remaining : Nat)
  | protocol (fault : ProtocolFault)
  | network (fault : NetworkFault)
  | settings (fault : SettingsFault)
  | timeout (wait : Duration)
  | phase (fault : PhaseFault)
deriving DecidableEq

def Stage.text : Stage → String
  | header => "header"
  | tid => "TID"
  | seoj => "SEOJ"
  | deoj => "DEOJ"
  | esv => "ESV"
  | opc => "OPC"
  | propertyCode => "property code"
  | propertyDataCounter => "property data counter"
  | propertyData => "property data"
  | named name => name

def FrameFault.text : FrameFault → String
  | firstByte found => "EHD1 is " ++ Hex.ofByte found ++ ", expected 10"
  | secondByte found => "EHD2 is " ++ Hex.ofByte found ++ ", expected 81"
  | reported text => text

def ProtocolFault.text : ProtocolFault → String
  | tooManyEntries count => toString count ++ " properties do not fit in OPC"
  | dataTooLong epc length =>
    "property " ++ Hex.ofByte epc ++ " carries " ++ toString length ++
      " bytes, PDC is limited to 255"
  | codeTooLow epc => "property code " ++ Hex.ofByte epc ++ " is below 80"
  | noProperty object epc => object.text ++ " has no property " ++ Hex.ofByte epc
  | noObject object => "no object " ++ object.text
  | notADevice object => object.text ++ " is a profile, not a device"
  | notAProfile object => object.text ++ " is not a profile"
  | emptyPropertyMap => "empty property map"
  | shortCodeList listed carried =>
    "property map lists " ++ toString listed ++ " codes but carries " ++ toString carried
  | shortBitmap length => "bitmap property map needs 17 bytes, got " ++ toString length
  | reported text => text

def SystemFault.code : SystemFault → Nat
  | addressInUse => 98
  | addressNotAvailable => 99
  | noSuchDevice => 19
  | numbered code _ => code

def SystemFault.description : SystemFault → String
  | addressInUse => "Address already in use"
  | addressNotAvailable => "Cannot assign requested address"
  | noSuchDevice => "No such device"
  | numbered _ text => text

def SystemFault.text (fault : SystemFault) : String :=
  fault.description ++ " (os error " ++ toString fault.code ++ ")"

def IoFault.text : IoFault → String
  | bytesRemaining => "bytes remaining on stream"
  | system fault => fault.text
  | reported text => text

def NetworkFault.text : NetworkFault → String
  | bindFailed port last =>
    "failed to bind port " ++ toString port.toNat ++ ": " ++
      (last.elim "no port available" IoFault.text)
  | noUsableInterface => "no usable network interface"
  | noUnicastSocket => "transport has no unicast socket"
  | sendFailed source destination fault =>
    "send from " ++ source.text ++ " to " ++ destination.text ++ " failed: " ++ fault.text
  | shortSend destination sent size =>
    "short send to " ++ destination.text ++ ": " ++ toString sent ++ " of " ++ toString size ++
      " bytes"
  | connectTimedOut destination => "TCP connect to " ++ destination.text ++ " timed out"
  | connectFailed destination fault =>
    "TCP connect to " ++ destination.text ++ " failed: " ++ fault.text
  | closedBeforeResponse destination =>
    "TCP connection to " ++ destination.text ++ " closed before the response"
  | connectionClosed destination => "TCP connection to " ++ destination.text ++ " closed"
  | reported text => text

def SettingsFault.text : SettingsFault → String
  | manufacturerCodeTooWide code =>
    "manufacturer code " ++ Hex.ofNat 1 code ++ " does not fit in 3 bytes"
  | noRequestTimeout => "request timeout must be positive"
  | notAGroup address => address.text ++ " is not a multicast group"
  | groupAsInterface => "interface address is a multicast address"
  | reported text => text

def PhaseFault.text : PhaseFault → String
  | notRunning => "node is not running"
  | cannotStart phase => "cannot start a node that is " ++ phase.text
  | cannotStop phase => "cannot stop a node that is " ++ phase.text
  | stoppedWhileWaiting => "node stopped while waiting for a response"
  | reported text => text

namespace Error

def message : Error → String
  | io fault => "IO error: " ++ fault.text
  | malformedFrame fault => "Malformed frame: " ++ fault.text
  | shortMessage stage needed remaining =>
    "Short message while reading " ++ stage.text ++ ": need " ++ toString needed ++ " bytes, " ++
      toString remaining ++ " left"
  | protocol fault => "Protocol error: " ++ fault.text
  | network fault => "Network error: " ++ fault.text
  | settings fault => "Configuration error: " ++ fault.text
  | timeout wait => "Request timed out after " ++ wait.text
  | phase fault => "Invalid state: " ++ fault.text

def isDecodeError : Error → Bool
  | malformedFrame _ => true
  | shortMessage .. => true
  | _ => false

def isTimeout : Error → Bool
  | timeout _ => true
  | _ => false

end Error

end EchonetLite

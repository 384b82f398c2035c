import EchonetLite.Node.Listener

/-!
The objects of a node. Profiles and devices are kept in two lists, each in the order in which the
codes were first added; adding an object replaces the one with its code in the same list. An
address finds the first object that it names, profiles before devices.
-/
namespace EchonetLite

structure HostedObject where
  object : Object
  listener : Option Listener := none

abbrev HostedObject.code (h : HostedObject) : ObjectCode := h.object.code

structure NodeObjects where
  devices : List HostedObject := []
  profiles : List HostedObject := []

namespace NodeObjects

def modifyFirst {α : Type} (test : α → Bool) (f : α → α) : List α → List α
  | [] => []
  | x :: xs => if test x then f x :: xs else x :: modifyFirst test f xs

def upsert (list : List HostedObject) (h : HostedObject) : List HostedObject :=
  if list.any (·.code == h.code) then modifyFirst (·.code == h.code) (fun _ => h) list
  else list ++ [h]

def addDevice (n : NodeObjects) (h : HostedObject) : NodeObjects :=
  { n with devices := upsert n.devices h }

def addProfile (n : NodeObjects) (h : HostedObject) : NodeObjects :=
  { n with profiles := upsert n.profiles h }

def add (n : NodeObjects) (h : HostedObject) : NodeObjects :=
  if h.code.isProfile then n.addProfile h else n.addDevice h

def toList (n : NodeObjects) : List HostedObject := n.profiles ++ n.devices

def count (n : NodeObjects) : Nat := n.devices.length + n.profiles.length

def find? (n : NodeObjects) (code : ObjectCode) : Option HostedObject :=
  n.toList.find? fun h => code.names h.code

def modify (n : NodeObjects) (code : ObjectCode) (f : HostedObject → HostedObject) :
    NodeObjects :=
  if n.profiles.any fun h => code.names h.code then
    { n with profiles := modifyFirst (fun h => code.names h.code) f n.profiles }
  else { n with devices := modifyFirst (fun h => code.names h.code) f n.devices }

def map (n : NodeObjects) (f : HostedObject → HostedObject) : NodeObjects :=
  { devices := n.devices.map f, profiles := n.profiles.map f }

def nodeProfile? (n : NodeObjects) : Option HostedObject :=
  n.profiles.find? (·.code.isNodeProfile)

def modifyNodeProfile (n : NodeObjects) (f : Object → Object) : NodeObjects :=
  { n with profiles :=
      modifyFirst (·.code.isNodeProfile) (fun h => { h with object := f h.object }) n.profiles }

def deviceCodes (n : NodeObjects) : List ObjectCode := n.devices.map (·.code)

def refreshNodeProfile (n : NodeObjects) : NodeObjects :=
  n.modifyNodeProfile (·.describeDevices n.deviceCodes)

end NodeObjects

end EchonetLite

import EchonetLite.Object.Basic

/-!
The database of the standard: for each class the properties that its objects have beyond those of
every device or profile, and the names of manufacturers. Of several entries for one class or one
manufacturer the last counts.
-/
namespace EchonetLite

structure PropertyTemplate where
  epc : UInt8
  access : Access
  name : String
deriving DecidableEq, Repr

structure ClassTemplate where
  objectClass : ClassCode
  name : String
  properties : List PropertyTemplate := []
deriving DecidableEq, Repr

structure Database where
  templates : List ClassTemplate := []
  manufacturers : List (UInt32 × String) := []
deriving DecidableEq, Repr

namespace Database

def addTemplate (db : Database) (t : ClassTemplate) : Database :=
  { db with templates := t :: db.templates }

def addManufacturer (db : Database) (code : UInt32) (name : String) : Database :=
  { db with manufacturers := (code, name) :: db.manufacturers }

def template? (db : Database) (c : ClassCode) : Option ClassTemplate :=
  db.templates.find? (·.objectClass == c)

def manufacturerName? (db : Database) (code : UInt32) : Option String :=
  (db.manufacturers.find? (·.1 == code)).map Prod.snd

def plainObject (code : ObjectCode) : Object :=
  if code.isProfile then .profile code.classCode code.instanceCode else .device code

def addTemplateProperty (o : Object) (t : PropertyTemplate) : Object :=
  (o.add t.epc t.access).2

def createObject (db : Database) (code : ObjectCode) : Object :=
  match db.template? code.objectClass with
  | none => plainObject code
  | some t => t.properties.foldl addTemplateProperty (plainObject code)

end Database

end EchonetLite

import EchonetLite.Node.Objects

/-!
Requests to the objects of a node. A request is checked entry by entry against the object as it
stands; only if every entry passes are the entries carried out, in order. A request that fails a
check, or that the object's listener rejects, is refused. Confirmed notifications are acknowledged;
anything else that is not a request is dropped.
-/
namespace EchonetLite

inductive Refusal where
  | missingProperty (epc : UInt8)
  | serviceNotAllowed (epc : UInt8)
  | sizeMismatch (epc : UInt8)
  | rejected (epc : UInt8)
deriving DecidableEq, Repr

def Refusal.text : Refusal → String
  | missingProperty epc => "no property " ++ Hex.ofByte epc
  | serviceNotAllowed epc => "property " ++ Hex.ofByte epc ++ " does not accept this service"
  | sizeMismatch epc => "wrong data size for property " ++ Hex.ofByte epc
  | rejected epc => "listener rejected property " ++ Hex.ofByte epc

inductive Notice where
  | noObject (deoj : ObjectCode) (esv : Service)
  | notRequest (esv : Service) (deoj : ObjectCode)
  | refused (esv : Service) (object : ObjectCode) (refusal : Refusal)
deriving DecidableEq, Repr

def Notice.text : Notice → String
  | noObject deoj esv => "no object " ++ deoj.text ++ " for " ++ esv.text ++ ", dropped"
  | notRequest esv deoj => esv.text ++ " to " ++ deoj.text ++ " is not a request, dropped"
  | refused esv object refusal =>
    "refusing " ++ esv.text ++ " to " ++ object.text ++ ": " ++ refusal.text

inductive Event where
  | asked (object : ObjectCode) (esv : Service) (entry : Entry) (accepted : Bool)
  | told (object : ObjectCode) (esv : Service) (entry : Entry)
deriving DecidableEq, Repr

structure Carried where
  object : Object
  outbox : Outbox
  events : List Event := []
  refusal : Option Refusal := none

structure Served where
  object : Object
  outbox : Outbox
  answer : Option Message := none
  events : List Event := []
  notice : Option Notice := none

namespace Request

def entryFault? (o : Object) (esv : Service) (e : Entry) : Option Refusal :=
  match o.property? e.epc with
  | none => some (.missingProperty e.epc)
  | some p =>
    if !p.allows esv then some (.serviceNotAllowed e.epc)
    else if esv.isWriteClass && decide (0 < p.size) && p.size != e.pdc then
      some (.sizeMismatch e.epc)
    else none

def fault? (o : Object) (m : Message) : Option Refusal := m.entries.findSome? (entryFault? o m.esv)

def carryOutEntry (listener : Option Listener) (esv : Service) (e : Entry) (o : Object)
    (out : Outbox) : Carried :=
  match listener with
  | some l =>
    match l.respond esv e o out with
    | (true, o', out') =>
      ⟨o', out', [.asked o.code esv e true, .told o'.code esv e], none⟩
    | (false, o', out') => ⟨o', out', [.asked o.code esv e false], some (.rejected e.epc)⟩
  | none =>
    if esv.isWriteClass then
      match o.write e.epc e.edt out with
      | (.ok (), o', out') => ⟨o', out', [.told o'.code esv e], none⟩
      | (.error _, o', out') => ⟨o', out', [], some (.missingProperty e.epc)⟩
    else ⟨o, out, [.told o.code esv e], none⟩

def carryOut (listener : Option Listener) (esv : Service) :
    List Entry → Object → Outbox → Carried
  | [], o, out => ⟨o, out, [], none⟩
  | e :: es, o, out =>
    let first := carryOutEntry listener esv e o out
    match first.refusal with
    | some _ => first
    | none =>
      let rest := carryOut listener esv es first.object first.outbox
      { rest with events := first.events ++ rest.events }

def acknowledgement (o : Object) (m : Message) : Message :=
  { tid := m.tid, seoj := o.code, deoj := m.seoj, esv := .infCRes,
    entries := m.entries.map fun e => Entry.empty e.epc }

def answer? (o : Object) (m : Message) : Option Message :=
  m.response?.map fun r =>
    { r with
      seoj := o.code
      deoj := if m.esv.isNotificationRequest then .nodeProfile else r.deoj
      entries := m.entries.map fun e => ⟨e.epc, (o.data? e.epc).getD []⟩ }

/-- What a refusal carries for an entry: a write is sent back as it came; for a read the data of
the property, if it is readable or announceable. -/
def refusedEntry (o : Object) (esv : Service) (e : Entry) : Entry :=
  if esv.isWriteClass then e
  else
    match o.property? e.epc with
    | some p => if p.isReadable || p.isAnnounceable then ⟨e.epc, p.data⟩ else Entry.empty e.epc
    | none => Entry.empty e.epc

def refusal? (o : Object) (m : Message) : Option Message :=
  m.refusal?.map fun r =>
    { r with seoj := o.code, entries := m.entries.map (refusedEntry o m.esv) }

def serve (h : HostedObject) (m : Message) (out : Outbox) : Served :=
  let o := h.object
  if m.esv = .infC then { object := o, outbox := out, answer := some (acknowledgement o m) }
  else if !m.esv.isRequest then
    { object := o, outbox := out, notice := some (.notRequest m.esv m.deoj) }
  else
    match fault? o m with
    | some refusal =>
      { object := o, outbox := out, answer := refusal? o m,
        notice := some (.refused m.esv o.code refusal) }
    | none =>
      let done := carryOut h.listener m.esv m.entries o out
      match done.refusal with
      | some refusal =>
        { object := done.object, outbox := done.outbox, events := done.events,
          answer := refusal? done.object m,
          notice := some (.refused m.esv done.object.code refusal) }
      | none =>
        { object := done.object, outbox := done.outbox, events := done.events,
          answer := answer? done.object m }

end Request

structure Handled where
  objects : NodeObjects
  outbox : Outbox
  answer : Option Message := none
  events : List Event := []
  notice : Option Notice := none

def NodeObjects.handle (n : NodeObjects) (m : Message) (out : Outbox) : Handled :=
  match n.find? m.deoj with
  | none => { objects := n, outbox := out, notice := some (.noObject m.deoj m.esv) }
  | some h =>
    let served := Request.serve h m out
    { objects := n.modify m.deoj fun h => { h with object := served.object }
      outbox := served.outbox
      answer := served.answer
      events := served.events
      notice := served.notice }

end EchonetLite

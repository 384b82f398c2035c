import EchonetLite.ObjectCode
import EchonetLite.Service

/-!
Messages: a transaction identifier, a source and a destination object, a service, and entries.
An entry names a property and may carry data for it. A message says how the answers to it begin
and whether another message can be its answer.
-/
namespace EchonetLite

structure Entry where
  epc : UInt8
  edt : Bytes := []
deriving DecidableEq, Repr

structure Message where
  tid : UInt16 := 0
  seoj : ObjectCode
  deoj : ObjectCode
  esv : Service
  entries : List Entry := []
deriving DecidableEq, Repr

namespace Entry

def pdc (e : Entry) : Nat := e.edt.length

def empty (epc : UInt8) : Entry := ⟨epc, []⟩

def totalLength : List Entry → Nat
  | [] => 0
  | e :: es => 2 + e.pdc + totalLength es

def text (e : Entry) : String := "[" ++ Hex.ofByte e.epc ++ ":" ++ Hex.ofBytes e.edt ++ "]"

end Entry

namespace Message

def readRequest (seoj deoj : ObjectCode) (epcs : List UInt8) : Message :=
  { seoj, deoj, esv := .get, entries := epcs.map Entry.empty }

def reply (m : Message) (esv : Service) : Message :=
  { tid := m.tid, seoj := m.deoj, deoj := m.seoj, esv }

def response? (m : Message) : Option Message := m.esv.response?.map m.reply

def refusal? (m : Message) : Option Message := m.esv.refusal?.map m.reply

def entry? (m : Message) (epc : UInt8) : Option Entry := m.entries.find? (·.epc == epc)

def opc (m : Message) : Nat := m.entries.length

/-- The message can be the answer to `request`: it has the same transaction and is another
message. A node that hears its own request back does not take it as the answer. -/
def answers (m request : Message) : Bool := m.tid == request.tid && m != request

def encodedLength (m : Message) : Nat := 12 + Entry.totalLength m.entries

def text (m : Message) : String :=
  "TID=" ++ Hex.ofNat 4 m.tid.toNat ++ " SEOJ=" ++ m.seoj.text ++ " DEOJ=" ++ m.deoj.text ++
    " ESV=" ++ m.esv.text ++ " OPC=" ++ toString m.opc ++
    String.join (m.entries.map fun e => " " ++ e.text)

end Message

end EchonetLite

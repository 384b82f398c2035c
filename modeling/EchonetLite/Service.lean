import EchonetLite.Text.Hex

/-!
Service codes. A frame may carry any byte as its service; sixteen of them have a meaning. The
tables say which services are requests, which write, and which service answers which.
-/
namespace EchonetLite

structure Service where
  code : UInt8
deriving DecidableEq, Repr

namespace Service

def setI : Service := ⟨0x60⟩
def setC : Service := ⟨0x61⟩
def get : Service := ⟨0x62⟩
def infReq : Service := ⟨0x63⟩
def setGet : Service := ⟨0x6E⟩
def setRes : Service := ⟨0x71⟩
def getRes : Service := ⟨0x72⟩
def inf : Service := ⟨0x73⟩
def infC : Service := ⟨0x74⟩
def infCRes : Service := ⟨0x7A⟩
def setGetRes : Service := ⟨0x7E⟩
def setISna : Service := ⟨0x50⟩
def setCSna : Service := ⟨0x51⟩
def getSna : Service := ⟨0x52⟩
def infSna : Service := ⟨0x53⟩
def setGetSna : Service := ⟨0x5E⟩

def table : List (Service × String) :=
  [(setI, "SetI"), (setC, "SetC"), (get, "Get"), (infReq, "INF_REQ"), (setGet, "SetGet"),
    (setRes, "Set_Res"), (getRes, "Get_Res"), (inf, "INF"), (infC, "INFC"),
    (infCRes, "INFC_Res"), (setGetRes, "SetGet_Res"), (setISna, "SetI_SNA"),
    (setCSna, "SetC_SNA"), (getSna, "Get_SNA"), (infSna, "INF_SNA"), (setGetSna, "SetGet_SNA")]

def standard : List Service := table.map Prod.fst

def refusable : List Service := [setI, setC, get, infReq, setGet, infC]

def isStandard (s : Service) : Bool := standard.contains s

def isWriteRequest (s : Service) : Bool := s == setI || s == setC

def isReadRequest (s : Service) : Bool := s == get

def isNotificationRequest (s : Service) : Bool := s == infReq

def isWriteReadRequest (s : Service) : Bool := s == setGet

def isRequest (s : Service) : Bool := decide (0x60 ≤ s.code ∧ s.code ≤ 0x6F) && s.isStandard

def isWriteClass (s : Service) : Bool := s.isWriteRequest || s.isWriteReadRequest

def isResponse (s : Service) : Bool :=
  s == setRes || s == getRes || s == infCRes || s == setGetRes

def isNotification (s : Service) : Bool := s == inf || s == infC

def isRefusal (s : Service) : Bool := decide (0x50 ≤ s.code ∧ s.code ≤ 0x5F) && s.isStandard

def response? (s : Service) : Option Service :=
  if s = setC then some setRes
  else if s = get then some getRes
  else if s = infReq then some inf
  else if s = setGet then some setGetRes
  else if s = infC then some infCRes
  else none

def refusal? (s : Service) : Option Service :=
  if s = setI then some setISna
  else if s = setC then some setCSna
  else if s = get then some getSna
  else if s = infReq then some infSna
  else if s = setGet then some setGetSna
  else if s = infC then some infSna
  else none

def wantsResponse (s : Service) : Bool := s.response?.isSome

def name (s : Service) : String :=
  match table.find? (fun row => row.1 == s) with
  | some row => row.2
  | none => "unknown"

def text (s : Service) : String := Hex.ofByte s.code ++ "(" ++ s.name ++ ")"

end Service

end EchonetLite

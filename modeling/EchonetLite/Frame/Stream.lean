import EchonetLite.Frame.Decode

/-!
Frames in a stream. A stream of frames has no marks between them, so the end of the first frame
is found by stepping from entry to entry. Until a whole frame is there, nothing is taken; a wrong
header is an error as soon as two bytes are there, and nothing is taken either.
-/
namespace EchonetLite

structure Stream where
  buffer : Bytes := []
deriving DecidableEq, Repr

namespace Frame

/-- Where `count` entries end of which the first begins at index `start`, if every code and counter
of them is there. The data of the last may reach beyond the bytes. -/
def entriesEnd? (bytes : Bytes) : (count start : Nat) → Option Nat
  | 0, start => some start
  | count + 1, start =>
    if bytes.length < start + 2 then none
    else entriesEnd? bytes count (start + 2 + (bytes.getD (start + 1) 0).toNat)

def size? (bytes : Bytes) : Except Error (Option Nat) := do
  if bytes.length < 2 then return none
  checkHeader (bytes.getD 0 0) (bytes.getD 1 0)
  if bytes.length < headerSize then return none
  let opc := bytes.getD (headerSize - 1) 0
  return (entriesEnd? bytes opc.toNat headerSize).filter (· ≤ bytes.length)

end Frame

namespace Stream

def feed (s : Stream) (bytes : Bytes) : Stream := ⟨s.buffer ++ bytes⟩

def next (s : Stream) : Except Error (Option Message) × Stream :=
  match Frame.size? s.buffer with
  | .error e => (.error e, s)
  | .ok none => (.ok none, s)
  | .ok (some size) => ((Message.decode (s.buffer.take size)).map some, ⟨s.buffer.drop size⟩)

def last (s : Stream) : Except Error (Option Message) × Stream :=
  match s.next with
  | (.ok none, s') => (if s'.buffer.isEmpty then .ok none else .error (.io .bytesRemaining), s')
  | other => other

def write (s : Stream) (m : Message) : Except Error Unit × Stream :=
  match m.encode with
  | .ok bytes => (.ok (), s.feed bytes)
  | .error e => (.error e, s)

def drainFor : (fuel : Nat) → Stream → List Message × Option Error × Stream
  | 0, s => ([], none, s)
  | fuel + 1, s =>
    match s.next with
    | (.error e, s') => ([], some e, s')
    | (.ok none, s') => ([], none, s')
    | (.ok (some m), s') =>
      let (ms, fault, rest) := drainFor fuel s'
      (m :: ms, fault, rest)

def drain (s : Stream) : List Message × Option Error × Stream :=
  drainFor (s.buffer.length + 1) s

def receive : Stream → List Bytes → List Message × Option Error × Stream
  | s, [] => ([], none, s)
  | s, piece :: pieces =>
    match (s.feed piece).drain with
    | (ms, some e, s') => (ms, some e, s')
    | (ms, none, s') =>
      let (later, fault, rest) := receive s' pieces
      (ms ++ later, fault, rest)

end Stream

end EchonetLite

import EchonetLite.Frame.Decode

/-!
Reading one frame from a source that is read in calls. A call delivers some bytes, is interrupted,
fails, or reports the end. The frame is read field by field, so nothing behind it is consumed.
-/
namespace EchonetLite

/-- What calls to a source come across, in order. A piece of bytes may be delivered in several
calls, none of which reaches beyond the piece. -/
inductive Reader.Event where
  | bytes (piece : Bytes)
  | interrupted
  | failed (fault : IoFault)
  | endOfFile
deriving DecidableEq, Repr

def Reader.Event.size : Reader.Event → Nat
  | bytes piece => piece.length
  | _ => 0

structure Reader where
  events : List Reader.Event := []
deriving DecidableEq, Repr

namespace Reader

def remaining (r : Reader) : Nat :=
  r.events.foldr (fun event total => event.size + total) 0

def readOn (stage : Stage) (needed : Nat) :
    (got : Bytes) → List Event → Except Error Bytes × List Event
  | got, [] =>
    (if got.length < needed then .error (.shortMessage stage needed got.length) else .ok got, [])
  | got, event :: events =>
    if got.length < needed then
      match event with
      | .bytes piece =>
        if needed - got.length < piece.length then
          (.ok (got ++ piece.take (needed - got.length)),
            .bytes (piece.drop (needed - got.length)) :: events)
        else readOn stage needed (got ++ piece) events
      | .interrupted => readOn stage needed got events
      | .failed fault => (.error (.io fault), events)
      | .endOfFile => (.error (.shortMessage stage needed got.length), events)
    else (.ok got, event :: events)

def readExact (stage : Stage) (size : Nat) (r : Reader) : Except Error Bytes × Reader :=
  let (result, events) := readOn stage size [] r.events
  (result, ⟨events⟩)

def readEntries : (count : Nat) → (frame : Bytes) → Reader → Except Error Bytes × Reader
  | 0, frame, r => (.ok frame, r)
  | count + 1, frame, r =>
    match r.readExact .propertyCode 2 with
    | (.error e, r) => (.error e, r)
    | (.ok front, r) =>
      match r.readExact .propertyData (front.getD 1 0).toNat with
      | (.error e, r) => (.error e, r)
      | (.ok edt, r) => readEntries count (frame ++ front ++ edt) r

def readMessage (r : Reader) : Except Error Message × Reader :=
  match r.readExact .header Frame.headerSize with
  | (.error e, r) => (.error e, r)
  | (.ok header, r) =>
    match Frame.checkHeader (header.getD 0 0) (header.getD 1 0) with
    | .error e => (.error e, r)
    | .ok () =>
      match readEntries (header.getD (Frame.headerSize - 1) 0).toNat header r with
      | (.error e, r) => (.error e, r)
      | (.ok frame, r) => (Message.decode frame, r)

def readMessages : (count : Nat) → Reader → List (Except Error Message × Nat)
  | 0, _ => []
  | count + 1, r =>
    let (result, r) := r.readMessage
    (result, r.remaining) :: readMessages count r

end Reader

end EchonetLite

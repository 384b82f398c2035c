import EchonetLite.Net.Transport

/-!
Requests over a connection of their own. The connection is made, the request is sent, and the
frames that come back are looked at in order. The first frame that answers the request is the
result; a bad frame, the end of the connection, or silence end the attempt without one.
-/
namespace EchonetLite

namespace Connection

inductive Opening where
  | established
  | timedOut
  | failed (fault : IoFault)
deriving DecidableEq, Repr

inductive Ending where
  | closed
  | silence
deriving DecidableEq, Repr

structure Course where
  opening : Opening := .established
  frames : List (Except Error Message) := []
  ending : Ending := .closed

def Course.ofPieces (pieces : List Bytes) (ending : Ending) : Course :=
  let (messages, fault, rest) := Stream.receive {} pieces
  let frames := messages.map Except.ok
  match fault, ending with
  | some e, _ => { frames := frames ++ [.error e], ending }
  | none, .closed =>
    if rest.buffer.isEmpty then { frames, ending }
    else { frames := frames ++ [.error (.io .bytesRemaining)], ending }
  | none, .silence => { frames, ending }

def awaitAnswer (request : Message) (destination : Endpoint) (wait : Duration) (ending : Ending) :
    List (Except Error Message) → Except Error Message
  | [] =>
    match ending with
    | .closed => .error (.network (.closedBeforeResponse destination))
    | .silence => .error (.timeout wait)
  | .error e :: _ => .error e
  | .ok m :: frames =>
    if m.answers request then .ok m else awaitAnswer request destination wait ending frames

def request (message : Message) (destination : Endpoint) (wait : Duration) (course : Course) :
    Except Error Message :=
  match course.opening with
  | .timedOut => .error (.network (.connectTimedOut destination))
  | .failed fault => .error (.network (.connectFailed destination fault))
  | .established =>
    match message.encode with
    | .error e => .error e
    | .ok _ => awaitAnswer message destination wait course.ending course.frames

end Connection

end EchonetLite

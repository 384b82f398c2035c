/-!
Lengths of time, counted in nanoseconds, and their text.
-/
namespace EchonetLite

structure Duration where
  nanos : Nat
deriving DecidableEq, Repr

namespace Duration

def perSecond : Nat := 1000000000

def perMilli : Nat := 1000000

def perMicro : Nat := 1000

def ofSeconds (n : Nat) : Duration := ⟨n * perSecond⟩

def ofMillis (n : Nat) : Duration := ⟨n * perMilli⟩

def dividedBy (d : Duration) (count : Nat) : Duration := ⟨d.nanos / count⟩

def timerMillis (d : Duration) : Nat := (d.nanos + (perMilli - 1)) / perMilli

def fractionDigits (places n : Nat) : List Char :=
  let written := (Nat.toDigits 10 n)
  let padded := List.replicate (places - written.length) '0' ++ written
  (padded.reverse.dropWhile (· == '0')).reverse

def inUnit (d : Duration) (size places : Nat) (unit : String) : String :=
  let fraction := fractionDigits places (d.nanos % size)
  let whole := toString (d.nanos / size)
  if d.nanos % size = 0 then whole ++ unit
  else whole ++ "." ++ String.ofList fraction ++ unit

def text (d : Duration) : String :=
  if perSecond ≤ d.nanos then d.inUnit perSecond 9 "s"
  else if perMilli ≤ d.nanos then d.inUnit perMilli 6 "ms"
  else if perMicro ≤ d.nanos then d.inUnit perMicro 3 "µs"
  else d.inUnit 1 0 "ns"

end Duration

end EchonetLite

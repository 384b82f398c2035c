import EchonetLite.Decimal.Shortest
import EchonetLite.Duration

/-!
Durations written as a number of seconds. Reading rounds to the nearest nanosecond, a half to the
even one; writing divides in binary arithmetic.
-/
namespace EchonetLite

inductive SecondsFault where
  | notADuration (seconds : Float)
  | tooLong

namespace SecondsFault

def text : SecondsFault → String
  | notADuration seconds => "invalid duration: " ++ Decimal.text seconds.toBits
  | tooLong => "cannot convert float seconds to Duration: value is either too big or NaN"

end SecondsFault

namespace Duration

def secondsLimit : Nat := UInt64.size

def readSeconds (seconds : Float) : Except SecondsFault Duration :=
  let bits := seconds.toBits
  let x := Decimal.Binary64.ofBits bits
  if !Decimal.Binary64.isFinite bits then .error (.notADuration seconds)
  else if Decimal.Binary64.isNegative bits && x.significand != 0 then
    .error (.notADuration seconds)
  else if secondsLimit * x.denominator ≤ x.numerator then .error .tooLong
  else .ok ⟨Decimal.roundDiv (x.numerator * perSecond) x.denominator⟩

def writeSeconds (d : Duration) : Float :=
  (UInt64.ofNat (d.nanos / perSecond)).toFloat +
    (UInt64.ofNat (d.nanos % perSecond)).toFloat / 1000000000.0

end Duration

end EchonetLite

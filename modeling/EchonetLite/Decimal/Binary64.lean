/-!
Binary numbers with 53 significant digits, taken apart: a finite value is a sign and a natural
number times a power of two.
-/
namespace EchonetLite.Decimal

structure Binary64 where
  significand : Nat
  exponent : Int
  closeBelow : Bool
deriving DecidableEq, Repr

namespace Binary64

def isNegative (bits : UInt64) : Bool := bits.toNat.testBit 63

def hiddenBit : Nat := 1 <<< 52

def exponentField (bits : UInt64) : Nat := bits.toNat / hiddenBit % 2048

def fractionField (bits : UInt64) : Nat := bits.toNat % hiddenBit

def isFinite (bits : UInt64) : Bool := exponentField bits != 2047

def ofBits (bits : UInt64) : Binary64 :=
  let field := exponentField bits
  let fraction := fractionField bits
  if field = 0 then ⟨fraction, -1074, false⟩
  else ⟨hiddenBit + fraction, Int.ofNat field - 1075, fraction == 0 && decide (1 < field)⟩

def numerator (x : Binary64) : Nat := x.significand <<< x.exponent.toNat

def denominator (x : Binary64) : Nat := 1 <<< (-x.exponent).toNat

end Binary64

def roundDiv (num den : Nat) : Nat :=
  let q := num / den
  let r := num % den
  if 2 * r < den then q
  else if den < 2 * r then q + 1
  else if q % 2 = 0 then q else q + 1

end EchonetLite.Decimal

import EchonetLite.Decimal.Binary64

/-!
The shortest decimal text of a binary number. Of the decimals that are read back as the number,
the text is one with the fewest digits, and of those the nearest, the upper one if two are equally
near. It is written positionally, with a point only where digits follow it.
-/
namespace EchonetLite.Decimal

structure Figure where
  digits : Nat
  exponent : Int
deriving DecidableEq, Repr

def tenTo : (n : Nat) → Nat
  | 0 => 1
  | n + 1 => tenTo n * 10

def Figure.compareBinary (f : Figure) (n : Nat) (j : Int) : Ordering :=
  compare ((f.digits * tenTo f.exponent.toNat) <<< (-j).toNat)
    ((n <<< j.toNat) * tenTo (-f.exponent).toNat)

namespace Binary64

def readsBack (x : Binary64) (f : Figure) : Bool :=
  let low := if x.closeBelow then 4 * x.significand - 1 else 4 * x.significand - 2
  let high := 4 * x.significand + 2
  let ends := x.significand % 2 == 0
  let below := f.compareBinary low (x.exponent - 2)
  let above := f.compareBinary high (x.exponent - 2)
  (below == .gt || (ends && below == .eq)) && (above == .lt || (ends && above == .eq))

def zerosAfterPoint (num den : Nat) : (fuel : Nat) → Nat
  | 0 => 0
  | fuel + 1 => if num * 10 < den then zerosAfterPoint (num * 10) den fuel + 1 else 0

def magnitude (x : Binary64) : Int :=
  let whole := x.numerator / x.denominator
  if whole = 0 then -(zerosAfterPoint x.numerator x.denominator 400 : Nat)
  else ((Nat.toDigits 10 whole).length : Int)

def neighbours (x : Binary64) (count : Nat) : Figure × Figure :=
  let exponent := x.magnitude - count
  let down := x.numerator * tenTo (-exponent).toNat / (x.denominator * tenTo exponent.toNat)
  (⟨down, exponent⟩, ⟨down + 1, exponent⟩)

def nearerDown (x : Binary64) (down : Figure) : Bool :=
  let middle : Figure := ⟨10 * down.digits + 5, down.exponent - 1⟩
  middle.compareBinary x.significand x.exponent == .gt

def withDigits? (x : Binary64) (count : Nat) : Option Figure :=
  let (down, up) := x.neighbours count
  match x.readsBack down, x.readsBack up with
  | true, true => some (if x.nearerDown down then down else up)
  | true, false => some down
  | false, true => some up
  | false, false => none

def shortest (x : Binary64) : Figure :=
  if x.significand = 0 then ⟨0, 0⟩
  else ((List.range 17).findSome? fun i => x.withDigits? (i + 1)).getD ⟨x.numerator, 0⟩

end Binary64

def trimZeros (written : List Char) : List Char × Nat :=
  let kept := (written.reverse.dropWhile (· == '0')).reverse
  (kept, written.length - kept.length)

def Figure.positional (f : Figure) : String :=
  if f.digits = 0 then "0"
  else
    let (kept, dropped) := trimZeros (Nat.toDigits 10 f.digits)
    let exponent := f.exponent + dropped
    let places := (-exponent).toNat
    if 0 ≤ exponent then String.ofList (kept ++ List.replicate exponent.toNat '0')
    else if places < kept.length then
      String.ofList (kept.take (kept.length - places)) ++ "." ++
        String.ofList (kept.drop (kept.length - places))
    else "0." ++ String.ofList (List.replicate (places - kept.length) '0' ++ kept)

def text (bits : UInt64) : String :=
  let sign := if Binary64.isNegative bits then "-" else ""
  if Binary64.isFinite bits then sign ++ (Binary64.ofBits bits).shortest.positional
  else if Binary64.fractionField bits = 0 then sign ++ "inf"
  else "NaN"

end EchonetLite.Decimal

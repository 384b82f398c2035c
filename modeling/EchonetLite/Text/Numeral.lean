/-!
Decimal numerals in texts.
-/
namespace EchonetLite.Numeral

def digitValue? (c : Char) : Option Nat :=
  if '0' ≤ c ∧ c ≤ '9' then some (c.toNat - 48) else none

def readOn : List Char → Nat → Option Nat
  | [], acc => some acc
  | c :: cs, acc => do
    let d ← digitValue? c
    readOn cs (acc * 10 + d)

def read? (cs : List Char) : Option Nat :=
  if cs.isEmpty then none else readOn cs 0

def readPlain? : List Char → Option Nat
  | '0' :: _ :: _ => none
  | cs => read? cs

end EchonetLite.Numeral

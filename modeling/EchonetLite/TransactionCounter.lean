/-!
The counter of transaction identifiers. It remembers the identifier issued last and wraps from
65535 to 0.
-/
namespace EchonetLite

structure TransactionCounter where
  last : UInt16 := 0
deriving DecidableEq, Repr

namespace TransactionCounter

def advance (c : TransactionCounter) : TransactionCounter := ⟨c.last + 1⟩

def advanceBy (c : TransactionCounter) : Nat → TransactionCounter
  | 0 => c
  | n + 1 => (c.advanceBy n).advance

@[simp] theorem last_advance (c : TransactionCounter) : c.advance.last = c.last + 1 := rfl

end TransactionCounter

end EchonetLite

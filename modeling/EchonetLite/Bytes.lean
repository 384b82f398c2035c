/-!
Byte strings and the unsigned numbers they hold, most significant byte first.
-/
namespace EchonetLite

abbrev Bytes := List UInt8

namespace Bytes

def value (bytes : Bytes) : Nat :=
  bytes.foldl (fun acc b => acc * 256 + b.toNat) 0

def ofNat : (size n : Nat) → Bytes
  | 0, _ => []
  | size + 1, n => ofNat size (n / 256) ++ [UInt8.ofNat n]

@[simp] theorem length_ofNat (size n : Nat) : (ofNat size n).length = size := by
  induction size generalizing n with
  | zero => rfl
  | succ size ih => simp [ofNat, ih]

end Bytes

end EchonetLite

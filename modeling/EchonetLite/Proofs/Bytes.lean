import EchonetLite.Bytes
import Mathlib.Algebra.Group.Nat.Defs
import Mathlib.Data.List.Induction
import Mathlib.Tactic.Lemma

/-! Byte strings as numbers. The strings of one length are the numbers that fit them, and a word of 32
bits is cut into bytes and put together again by shifting. -/

namespace EchonetLite.Bytes

def ofWord (n : UInt32) : Bytes :=
  [(n >>> 24).toUInt8, (n >>> 16).toUInt8, (n >>> 8).toUInt8, n.toUInt8]

def shiftIn (n : UInt32) (b : UInt8) : UInt32 := n <<< 8 ||| b.toUInt32

lemma value_concat (bytes : Bytes) (b : UInt8) :
    value (bytes ++ [b]) = value bytes * 256 + b.toNat := by
  rw [value, List.foldl_append]
  rfl

lemma value_ofNat (size n : Nat) : value (ofNat size n) = n % 256 ^ size := by
  induction size generalizing n with
  | zero => exact (Nat.mod_one n).symm
  | succ size ih =>
    have hp : 256 ^ (size + 1) = 256 * 256 ^ size := Nat.pow_succ'
    rw [ofNat, value_concat, ih, UInt8.toNat_ofNat', hp, Nat.mod_mul]
    omega

lemma value_lt (bytes : Bytes) : value bytes < 256 ^ bytes.length := by
  induction bytes using List.reverseRecOn with
  | nil => exact Nat.one_pos
  | append_singleton bytes b ih =>
    have hb := b.toNat_lt
    rw [value_concat, List.length_append, List.length_singleton, Nat.pow_succ]
    omega

lemma ofNat_value (bytes : Bytes) : ofNat bytes.length (value bytes) = bytes := by
  induction bytes using List.reverseRecOn with
  | nil => rfl
  | append_singleton bytes b ih =>
    have hb := b.toNat_lt
    have hd : (value bytes * 256 + b.toNat) / 256 = value bytes := by omega
    have hm : UInt8.ofNat (value bytes * 256 + b.toNat) = b := by
      apply UInt8.toNat_inj.mp
      rw [UInt8.toNat_ofNat']
      omega
    rw [List.length_append, List.length_singleton, value_concat, ofNat, hd, hm, ih]

lemma eq_of_value_eq {bytes bytes' : Bytes} (hl : bytes.length = bytes'.length)
    (hv : value bytes = value bytes') : bytes = bytes' := by
  rw [← ofNat_value bytes, hl, hv, ofNat_value]

lemma drop_ofNat (extra size n : Nat) : (ofNat (extra + size) n).drop extra = ofNat size n := by
  induction size generalizing n with
  | zero => exact List.drop_of_length_le (Nat.le_of_eq (length_ofNat extra n))
  | succ size ih =>
    have hl : extra ≤ (ofNat (extra + size) (n / 256)).length := by
      rw [length_ofNat]
      exact Nat.le_add_right extra size
    rw [← Nat.add_assoc, ofNat, List.drop_append_of_le_length hl, ih, ofNat]

lemma ofNat_four (n : UInt32) : ofNat 4 n.toNat = ofWord n := by
  simp [ofNat, ofWord, ← UInt8.toNat_inj, Nat.shiftRight_eq_div_pow, Nat.div_div_eq_div_mul]

lemma shiftIn_ofNat (n : Nat) (b : UInt8) :
    shiftIn (UInt32.ofNat n) b = UInt32.ofNat (n * 256 + b.toNat) := by
  have hb : b.toNat < 2 ^ 8 := b.toNat_lt
  -- The low 24 bits are what is left of the word, and the byte stands clear of them.
  have hs : (n % 2 ^ 32) <<< 8 % 2 ^ 32 = (n % 2 ^ 24) <<< 8 := by
    rw [Nat.shiftLeft_eq, Nat.shiftLeft_eq]
    omega
  have hn : (shiftIn (UInt32.ofNat n) b).toNat = (n % 2 ^ 32) <<< 8 % 2 ^ 32 ||| b.toNat := by
    rw [shiftIn, UInt32.toNat_or, UInt32.toNat_shiftLeft, UInt32.toNat_ofNat',
      UInt8.toNat_toUInt32]
    rfl
  apply UInt32.toNat_inj.mp
  rw [hn, hs, ← Nat.shiftLeft_add_eq_or_of_lt hb, Nat.shiftLeft_eq, UInt32.toNat_ofNat']
  omega

lemma foldl_shiftIn (bytes : Bytes) : bytes.foldl shiftIn 0 = UInt32.ofNat (value bytes) :=
  List.foldl_hom UInt32.ofNat shiftIn_ofNat

end EchonetLite.Bytes

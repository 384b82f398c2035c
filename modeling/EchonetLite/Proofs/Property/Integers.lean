import EchonetLite.Property.Basic
import EchonetLite.Property.Codes
import EchonetLite.Proofs.Bytes

/-! Numbers in the data of properties. What is read back is what fitted the bytes, what was read is
written again as it was, and neither goes further than four bytes. -/

namespace EchonetLite.Property

variable {p q : Property}

lemma length_integerBytes (value : UInt32) (size : Nat) :
    (integerBytes value size).length = min size 4 :=
  Bytes.length_ofNat _ _

lemma integerBytes_eq_drop (value : UInt32) (size : Nat) :
    integerBytes value size = (Bytes.ofWord value).drop (4 - min size 4) := by
  have hs : 4 - min size 4 + min size 4 = 4 := Nat.sub_add_cancel (Nat.min_le_right size 4)
  rw [integerBytes, ← Bytes.drop_ofNat (4 - min size 4), hs, Bytes.ofNat_four]

lemma integerBytes_of_le {value : UInt32} {size : Nat} (hs : 4 ≤ size) :
    integerBytes value size = Bytes.ofWord value := by
  rw [integerBytes, Nat.min_eq_right hs, Bytes.ofNat_four]

lemma toNat_integer_eq (p : Property) : p.integer.toNat = Bytes.value (p.data.take 4) := by
  have hl : (p.data.take 4).length ≤ 4 := List.length_take_le 4 p.data
  have hp : 256 ^ (p.data.take 4).length ≤ UInt32.size := Nat.pow_le_pow_right (by decide) hl
  exact UInt32.toNat_ofNat_of_lt' (Nat.lt_of_lt_of_le (Bytes.value_lt _) hp)

lemma toNat_integer {value : UInt32} {size : Nat}
    (hp : p.data = integerBytes value size) : p.integer.toNat = value.toNat % 256 ^ min size 4 := by
  have hl : p.data.length ≤ 4 := by
    rw [hp, length_integerBytes]
    exact Nat.min_le_right size 4
  rw [toNat_integer_eq, List.take_of_length_le hl, hp, integerBytes, Bytes.value_ofNat]

lemma toNat_integer_of_lt {n size : Nat} (hs : size ≤ 3)
    (hp : p.data = integerBytes (UInt32.ofNat n) size) (hn : n < 256 ^ size) :
    p.size = size ∧ p.integer.toNat = n := by
  have hmin : min size 4 = size := Nat.min_eq_left (by omega)
  have hpow : 256 ^ size ≤ 256 ^ 3 := Nat.pow_le_pow_right (by decide) hs
  have hv : (UInt32.ofNat n).toNat = n :=
    UInt32.toNat_ofNat_of_lt' (by simp only [UInt32.size]; omega)
  constructor
  · rw [Property.size, hp, length_integerBytes, hmin]
  · rw [toNat_integer hp, hv, hmin, Nat.mod_eq_of_lt hn]

lemma integer_eq_foldl (p : Property) : p.integer = (p.data.take 4).foldl Bytes.shiftIn 0 :=
  (Bytes.foldl_shiftIn _).symm

lemma integerBytes_integer (p : Property) : integerBytes p.integer p.size = p.data.take 4 := by
  have hl : min p.size 4 = (p.data.take 4).length := by
    rw [List.length_take, Nat.min_comm, size]
  rw [integerBytes, toNat_integer_eq, hl, Bytes.ofNat_value]

lemma integer_eq_iff (hp : 4 ≤ p.size) (hq : 4 ≤ q.size) :
    p.integer = q.integer ↔ p.data.take 4 = q.data.take 4 := by
  constructor
  · intro h
    rw [← integerBytes_integer p, ← integerBytes_integer q, integerBytes_of_le hp,
      integerBytes_of_le hq, h]
  · intro h
    rw [integer, integer, h]

/-- A number is written as the last bytes of its word and read by shifting in at most four bytes. It
is read back as far as it fitted, data of at most four bytes is written again as it was, and of longer
data the first four bytes are what counts. -/
theorem integers_faithful :
    (∀ (value : UInt32) (size : Nat),
      integerBytes value size = (Bytes.ofWord value).drop (4 - min size 4) ∧
      (integerBytes value size).length = min size 4 ∧
      ∀ p : Property, p.data = integerBytes value size →
        p.integer.toNat = value.toNat % 256 ^ min size 4) ∧
    (∀ p : Property, p.integer = (p.data.take 4).foldl Bytes.shiftIn 0 ∧
      (p.size ≤ 4 → integerBytes p.integer p.size = p.data)) ∧
    ∀ p q : Property, 4 ≤ p.size → 4 ≤ q.size →
      (p.integer = q.integer ↔ p.data.take 4 = q.data.take 4) := by
  refine ⟨?_, ?_, fun p q => integer_eq_iff⟩
  · intro value size
    exact ⟨integerBytes_eq_drop value size, length_integerBytes value size, fun p => toNat_integer⟩
  · intro p
    refine ⟨integer_eq_foldl p, ?_⟩
    intro hs
    rw [integerBytes_integer, List.take_of_length_le hs]

def manufacturerCode (data : Bytes) : Property :=
  { epc := Epc.manufacturer, access := .read, data }

theorem integers_faithful_manufacturer :
    (manufacturerCode [0xFF, 0xFF, 0xFE]).data = integerBytes 0x01FFFFFE 3 ∧
      (manufacturerCode [0xFF, 0xFF, 0xFE]).integer.toNat = 0x01FFFFFE % 256 ^ 3 ∧
      integerBytes (manufacturerCode [0xFF, 0xFF, 0xFE]).integer 3 = [0xFF, 0xFF, 0xFE] ∧
      (manufacturerCode [1, 2, 3, 4, 5]).integer = (manufacturerCode [1, 2, 3, 4, 6]).integer := by
  obtain ⟨hwrite, hread, hlong⟩ := integers_faithful
  have hdata : (manufacturerCode [0xFF, 0xFF, 0xFE]).data = integerBytes 0x01FFFFFE 3 := by decide
  have hsize : (manufacturerCode [0xFF, 0xFF, 0xFE]).size ≤ 4 := by decide
  exact ⟨hdata, (hwrite 0x01FFFFFE 3).2.2 _ hdata, (hread _).2 hsize,
    (hlong _ _ (by decide) (by decide)).mpr rfl⟩

end EchonetLite.Property

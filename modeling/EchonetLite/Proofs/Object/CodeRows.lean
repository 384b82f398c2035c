import EchonetLite.Object.Lists
import Mathlib.Tactic.Lemma

/-! Codes of one width, one after another in a row of bytes. Lists of object codes and of class codes
are such rows behind a count, so what holds of a row holds of both. -/

namespace EchonetLite

structure CodeRow (α : Type) where
  width : Nat
  toBytes : α → Bytes
  row : Bytes → List α
  width_pos : 0 < width
  length_toBytes : ∀ code, (toBytes code).length = width
  exists_code : ∀ bytes : Bytes, bytes.length = width → ∃ code, toBytes code = bytes
  row_cons : ∀ code rest, row (toBytes code ++ rest) = code :: row rest
  row_short : ∀ bytes : Bytes, bytes.length < width → row bytes = []

namespace CodeRow

variable {α : Type} {r : CodeRow α} {limit : Nat}

lemma induction {motive : Bytes → Prop} (r : CodeRow α)
    (short : ∀ bytes : Bytes, bytes.length < r.width → motive bytes)
    (cons : ∀ code rest, motive rest → motive (r.toBytes code ++ rest)) (bytes : Bytes) :
    motive bytes := by
  by_cases h : bytes.length < r.width
  · exact short bytes h
  · obtain ⟨code, hc⟩ := r.exists_code (bytes.take r.width) (by simp; omega)
    have hp := r.width_pos
    rw [← List.take_append_drop r.width bytes, ← hc]
    exact cons code _ (induction r short cons _)
termination_by bytes.length
decreasing_by simp; omega

lemma row_flatMap (codes : List α) : r.row (codes.flatMap r.toBytes) = codes := by
  induction codes with
  | nil => exact r.row_short [] r.width_pos
  | cons code codes ih => rw [List.flatMap_cons, r.row_cons, ih]

lemma length_flatMap (codes : List α) :
    (codes.flatMap r.toBytes).length = r.width * codes.length := by
  induction codes with
  | nil => rfl
  | cons code codes ih =>
    rw [List.flatMap_cons, List.length_append, r.length_toBytes, ih, List.length_cons,
      Nat.mul_succ, Nat.add_comm]

lemma length_row (bytes : Bytes) : (r.row bytes).length = bytes.length / r.width := by
  induction bytes using r.induction with
  | short bytes h => rw [r.row_short bytes h, Nat.div_eq_of_lt h, List.length_nil]
  | cons code rest ih =>
    rw [r.row_cons, List.length_cons, ih, List.length_append, r.length_toBytes,
      Nat.add_div_left _ r.width_pos]

lemma flatMap_row_prefix (bytes : Bytes) : (r.row bytes).flatMap r.toBytes <+: bytes := by
  induction bytes using r.induction with
  | short bytes h => rw [r.row_short bytes h]; exact List.nil_prefix
  | cons code rest ih =>
    rw [r.row_cons, List.flatMap_cons]
    exact (List.prefix_append_right_inj _).mpr ih

lemma toBytes_of_getElem? {bytes : Bytes} {i : Nat} {code : α}
    (h : (r.row bytes)[i]? = some code) :
    r.toBytes code = (bytes.drop (r.width * i)).take r.width := by
  induction bytes using r.induction generalizing i with
  | short bytes hs =>
    rw [r.row_short bytes hs] at h
    cases h
  | cons first rest ih =>
    have hl := r.length_toBytes first
    rw [r.row_cons] at h
    cases i with
    | zero =>
      obtain rfl : first = code := Option.some.inj h
      rw [Nat.mul_zero, List.drop_zero, List.take_left' hl]
    | succ i =>
      have hd : r.width * (i + 1) = (r.toBytes first).length + r.width * i := by
        rw [hl, Nat.mul_succ, Nat.add_comm]
      rw [hd, List.drop_length_add_append]
      exact ih h

def encode (r : CodeRow α) (limit : Nat) (codes : List α) : Bytes :=
  UInt8.ofNat (codes.take limit).length :: (codes.take limit).flatMap r.toBytes

def decode (r : CodeRow α) : Bytes → List α
  | [] => []
  | count :: rest => (r.row rest).take count.toNat

lemma encode_take (codes : List α) : r.encode limit (codes.take limit) = r.encode limit codes := by
  rw [encode, encode, List.take_take, Nat.min_self]

lemma decode_encode (hl : limit < 256) (codes : List α) :
    r.decode (r.encode limit codes) = codes.take limit := by
  have ht : (codes.take limit).length < 256 := Nat.lt_of_le_of_lt (List.length_take_le _ _) hl
  have hc : (UInt8.ofNat (codes.take limit).length).toNat = (codes.take limit).length :=
    UInt8.toNat_ofNat_of_lt' ht
  rw [encode, decode, row_flatMap, hc, List.take_length]

lemma length_encode_le (codes : List α) :
    (r.encode limit codes).length ≤ r.width * limit + 1 := by
  rw [encode, List.length_cons, length_flatMap]
  exact Nat.succ_le_succ (Nat.mul_le_mul_left _ (List.length_take_le _ _))

lemma length_decode (count : UInt8) (rest : Bytes) :
    (r.decode (count :: rest)).length = min count.toNat (rest.length / r.width) := by
  rw [decode, List.length_take, length_row]

lemma toBytes_of_decode {count : UInt8} {rest : Bytes} {i : Nat} {code : α}
    (h : (r.decode (count :: rest))[i]? = some code) :
    r.toBytes code = (rest.drop (r.width * i)).take r.width := by
  rw [decode, List.getElem?_take] at h
  split at h
  · exact toBytes_of_getElem? h
  · cases h

lemma encode_decode_prefix_iff (hl : limit < 256) (bytes : Bytes) :
    r.encode limit (r.decode bytes) <+: bytes ↔ ∃ count rest, bytes = count :: rest ∧
      count.toNat ≤ limit ∧ r.width * count.toNat ≤ rest.length := by
  cases bytes with
  | nil => simp [encode]
  | cons count rest =>
    have hp : ((r.decode (count :: rest)).take limit).flatMap r.toBytes <+: rest := by
      have ht : (r.decode (count :: rest)).take limit <+: r.row rest :=
        (List.take_prefix _ _).trans (List.take_prefix _ _)
      obtain ⟨more, hm⟩ := ht
      have hf := flatMap_row_prefix (r := r) rest
      rw [← hm, List.flatMap_append] at hf
      exact (List.prefix_append _ _).trans hf
    have hc : UInt8.ofNat (min limit (min count.toNat (rest.length / r.width))) = count ↔
        count.toNat ≤ limit ∧ count.toNat ≤ rest.length / r.width := by
      have hb : min limit (min count.toNat (rest.length / r.width)) < UInt8.size :=
        Nat.lt_of_le_of_lt (Nat.min_le_left _ _) hl
      rw [← UInt8.toNat_inj, UInt8.toNat_ofNat_of_lt' hb]
      omega
    rw [encode, List.cons_prefix_cons, List.length_take, length_decode, and_iff_left hp, hc,
      Nat.le_div_iff_mul_le r.width_pos, Nat.mul_comm]
    constructor
    · exact fun h => ⟨count, rest, rfl, h⟩
    · rintro ⟨_, _, he, h⟩
      obtain ⟨rfl, rfl⟩ := List.cons.inj he
      exact h

/-- How a list of codes of some width reads back, up to a limit: what was written comes back and fits
an entry, any bytes yield the complete codes that are counted, and these are written as they stood
where the count is one that could have been written. -/
structure Faithful (toBytes : α → Bytes) (width limit : Nat) (encode : List α → Bytes)
    (decode : Bytes → List α) : Prop where
  roundTrip : ∀ codes, decode (encode codes) = codes.take limit
  fits : ∀ codes, (encode codes).length ≤ 255
  empty : decode [] = []
  count : ∀ count rest, (decode (count :: rest)).length = min count.toNat (rest.length / width)
  entry : ∀ count rest i code, (decode (count :: rest))[i]? = some code →
    toBytes code = (rest.drop (width * i)).take width
  canonical : ∀ bytes, encode (decode bytes) <+: bytes ↔ ∃ count rest, bytes = count :: rest ∧
    count.toNat ≤ limit ∧ width * count.toNat ≤ rest.length

lemma faithful (hw : r.width * limit < 255) :
    Faithful r.toBytes r.width limit (r.encode limit) r.decode := by
  have hl : limit < 256 := by
    have hm := Nat.le_mul_of_pos_left limit r.width_pos
    omega
  exact {
    roundTrip := decode_encode hl
    fits := fun codes => Nat.le_trans (length_encode_le codes) hw
    empty := rfl
    count := length_decode
    entry := fun _ _ _ _ => toBytes_of_decode
    canonical := encode_decode_prefix_iff hl }

end CodeRow

end EchonetLite

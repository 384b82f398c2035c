import EchonetLite.Property.Map
import Mathlib.Data.List.Basic
import Mathlib.Tactic.Lemma

/-! A property map is determined by the codes that it contains, and reading its property data gives
the map back. The table of the long format is drawn code by code: every step adds one bit, and the
table of a whole map is the one whose rows are the members with the same lower digit. -/

namespace EchonetLite.PropertyMap

variable {map map' : PropertyMap} {epc c : UInt8} {epcs : List UInt8}

lemma toNat_codeAt {i : Nat} (hi : i < 128) : (codeAt i).toNat = 128 + i :=
  UInt8.toNat_ofNat_of_lt' (by simp only [UInt8.size]; omega)

lemma lowestCode_le_iff : Property.lowestCode ≤ c ↔ 128 ≤ c.toNat :=
  UInt8.le_iff_toNat_le

lemma codeAt_of_toNat (hc : 128 ≤ c.toNat) : codeAt (c.toNat - 128) = c := by
  have ht := c.toNat_lt
  apply UInt8.toNat_inj.mp
  rw [toNat_codeAt (by omega)]
  omega

lemma contains_iff :
    map.contains c = true ↔ 128 ≤ c.toNat ∧ map.members.getLsbD (c.toNat - 128) = true := by
  rw [contains, Bool.and_eq_true, decide_eq_true_eq, lowestCode_le_iff]

lemma contains_codeAt {i : Nat} (hi : i < 128) :
    map.contains (codeAt i) = true ↔ map.members.getLsbD i = true := by
  have hn : 128 + i - 128 = i := by omega
  rw [contains_iff, toNat_codeAt hi, hn]
  exact and_iff_right (by omega)

lemma eq_of_contains (h : ∀ c, map.contains c = true ↔ map'.contains c = true) : map = map' := by
  have hm : map.members = map'.members := by
    apply BitVec.eq_of_getLsbD_eq
    intro i hi
    apply Bool.eq_iff_iff.mpr
    rw [← contains_codeAt hi, ← contains_codeAt hi]
    exact h _
  obtain ⟨members⟩ := map
  obtain rfl : members = map'.members := hm
  rfl

lemma contains_insert :
    (map.insert epc).contains c = true ↔
      map.contains c = true ∨ c = epc ∧ Property.lowestCode ≤ c := by
  rw [insert]
  split
  case isTrue hlow =>
    have hn : ¬ (c = epc ∧ Property.lowestCode ≤ c) := by
      rintro ⟨rfl, hc⟩
      exact absurd hlow (UInt8.not_lt.mpr hc)
    simp only [hn, or_false]
  case isFalse hlow =>
    have he := lowestCode_le_iff.mp (UInt8.not_lt.mp hlow)
    have ht := epc.toNat_lt
    have hb : 128 ≤ c.toNat →
        ((BitVec.twoPow 128 (epc.toNat - 128)).getLsbD (c.toNat - 128) = true ↔ c = epc) := by
      intro hc
      rw [BitVec.getLsbD_twoPow, ← UInt8.toNat_inj]
      simp only [Bool.and_eq_true, decide_eq_true_eq]
      omega
    rw [contains_iff, contains_iff, BitVec.getLsbD_or, Bool.or_eq_true, lowestCode_le_iff]
    constructor
    · rintro ⟨hc, hm | hm⟩
      · exact .inl ⟨hc, hm⟩
      · exact .inr ⟨(hb hc).mp hm, hc⟩
    · rintro (⟨hc, hm⟩ | ⟨hm, hc⟩)
      · exact ⟨hc, .inl hm⟩
      · exact ⟨hc, .inr ((hb hc).mpr hm)⟩

lemma contains_foldl_insert :
    (epcs.foldl insert map).contains c = true ↔
      map.contains c = true ∨ c ∈ epcs ∧ Property.lowestCode ≤ c := by
  induction epcs generalizing map with
  | nil => simp
  | cons epc epcs ih =>
    rw [List.foldl_cons, ih, contains_insert, List.mem_cons, or_assoc, ← or_and_right]

lemma contains_ofList :
    (ofList epcs).contains c = true ↔ c ∈ epcs ∧ Property.lowestCode ≤ c := by
  have he : (empty : PropertyMap).contains c = false := by simp [contains, empty]
  rw [ofList, contains_foldl_insert, he]
  simp

lemma mem_codes : c ∈ map.codes ↔ map.contains c = true := by
  simp only [codes, List.mem_map, List.mem_filter, List.mem_range]
  constructor
  · rintro ⟨i, ⟨hi, hm⟩, rfl⟩
    exact (contains_codeAt hi).mpr hm
  · intro h
    obtain ⟨hc, hm⟩ := contains_iff.mp h
    have ht := c.toNat_lt
    exact ⟨c.toNat - 128, ⟨by omega, hm⟩, codeAt_of_toNat hc⟩

lemma codes_ascending (map : PropertyMap) : map.codes.Pairwise (· < ·) := by
  rw [codes, List.pairwise_map]
  refine (List.pairwise_lt_range.filter _).imp_of_mem ?_
  intro i j hi hj hij
  have hi' := List.mem_range.mp (List.mem_filter.mp hi).1
  have hj' := List.mem_range.mp (List.mem_filter.mp hj).1
  rw [UInt8.lt_iff_toNat_lt, toNat_codeAt hi', toNat_codeAt hj']
  omega

lemma lowestCode_le_of_mem_codes (h : c ∈ map.codes) : Property.lowestCode ≤ c :=
  lowestCode_le_iff.mpr (contains_iff.mp (mem_codes.mp h)).1

lemma ofList_codes (map : PropertyMap) : ofList map.codes = map := by
  apply eq_of_contains
  intro c
  rw [contains_ofList, ← mem_codes]
  exact and_iff_left_of_imp lowestCode_le_of_mem_codes

lemma nodup_of_ascending (h : epcs.Pairwise (· < ·)) : epcs.Nodup :=
  h.imp UInt8.ne_of_lt

lemma codes_ofList (hs : epcs.Pairwise (· < ·)) (hl : ∀ c ∈ epcs, Property.lowestCode ≤ c) :
    (ofList epcs).codes = epcs := by
  have hm : ∀ c, c ∈ (ofList epcs).codes ↔ c ∈ epcs := by
    intro c
    rw [mem_codes, contains_ofList]
    exact and_iff_left_of_imp (hl c)
  have ha := codes_ascending (ofList epcs)
  have hp := (List.perm_ext_iff_of_nodup (nodup_of_ascending ha) (nodup_of_ascending hs)).mpr hm
  exact hp.eq_of_pairwise (fun a b _ _ hab hba => absurd hba (UInt8.lt_asymm hab)) ha hs

lemma size_le (map : PropertyMap) : map.size ≤ 128 := by
  rw [size, codes, List.length_map]
  exact Nat.le_trans (List.length_filter_le _ _) (Nat.le_of_eq List.length_range)

lemma toNat_size (map : PropertyMap) : (UInt8.ofNat map.size).toNat = map.size := by
  have hs := map.size_le
  exact UInt8.toNat_ofNat_of_lt' (by simp only [UInt8.size]; omega)

lemma toNat_codeOf {row bit : Nat} (hr : row < 16) (hb : bit < 8) :
    (codeOf row bit).toNat = 0x80 + row + 16 * bit := by
  rw [codeOf, toNat_codeAt (by omega)]
  omega

lemma codeOf_inj {row bit row' bit' : Nat} (hr : row < 16) (hb : bit < 8) (hr' : row' < 16)
    (hb' : bit' < 8) : codeOf row bit = codeOf row' bit' ↔ row = row' ∧ bit = bit' := by
  rw [← UInt8.toNat_inj, toNat_codeOf hr hb, toNat_codeOf hr' hb']
  omega

lemma position_eq (hc : Property.lowestCode ≤ c) :
    ∃ row bit, row < 16 ∧ bit < 8 ∧ position c = (row + 1, bit) ∧ codeOf row bit = c := by
  have hc' : 128 ≤ c.toNat := lowestCode_le_iff.mp hc
  have ht := c.toNat_lt
  have ho : (c - Property.lowestCode).toNat = c.toNat - 128 := UInt8.toNat_sub_of_le c _ hc
  refine ⟨(c.toNat - 128) % 16, (c.toNat - 128) / 16, by omega, by omega, ?_, ?_⟩
  · rw [position, ho]
  · have hi : (c.toNat - 128) % 16 + 16 * ((c.toNat - 128) / 16) = c.toNat - 128 := by omega
    rw [codeOf, hi, codeAt_of_toNat hc']

lemma eq_of_testBit {x y : UInt8} (h : ∀ bit < 8, x.toNat.testBit bit = y.toNat.testBit bit) :
    x = y := by
  have hv : x.toBitVec = y.toBitVec := by
    apply BitVec.eq_of_getLsbD_eq
    exact h
  exact UInt8.toBitVec_inj.mp hv

def row (map : PropertyMap) (r : Nat) : UInt8 :=
  let bits := (List.range 8).map fun bit => map.contains (codeOf r bit)
  ⟨(BitVec.ofBoolListLE bits).setWidth 8⟩

lemma testBit_row (map : PropertyMap) (r : Nat) {bit : Nat} (hb : bit < 8) :
    (map.row r).toNat.testBit bit = map.contains (codeOf r bit) := by
  rw [row, UInt8.toNat, BitVec.testBit_toNat, BitVec.getLsbD_setWidth,
    BitVec.getLsbD_ofBoolListLE]
  simp [List.getD_eq_getElem?_getD, hb]

lemma getD_rows (map : PropertyMap) {r : Nat} (hr : r < 16) :
    ((List.range 16).map map.row).getD r 0 = map.row r := by
  simp [List.getD_eq_getElem?_getD, hr]

structure Drawn (count : UInt8) (codes : List UInt8) (data : Bytes) : Prop where
  length : data.length = 17
  head : data[0]? = some count
  testBit : ∀ row < 16, ∀ bit < 8,
    ((data.getD (row + 1) 0).toNat.testBit bit = true ↔ codeOf row bit ∈ codes)

variable {count : UInt8} {codes : List UInt8} {data : Bytes}

lemma testBit_mask : ∀ bit < 8, ∀ bit' < 8,
    ((1 : UInt8) <<< UInt8.ofNat bit).toNat.testBit bit' = decide (bit' = bit) := by
  decide

lemma getD_modify_eq {i : Nat} (hi : i < data.length) (f : UInt8 → UInt8) :
    (data.modify i f).getD i 0 = f (data.getD i 0) := by
  simp [List.getD_eq_getElem?_getD, hi]

lemma getD_modify_ne {i j : Nat} (hj : j ≠ i) (f : UInt8 → UInt8) :
    (data.modify i f).getD j 0 = data.getD j 0 := by
  simp [List.getD_eq_getElem?_getD, hj.symm]

lemma Drawn.draw (h : Drawn count codes data) (hc : Property.lowestCode ≤ c) :
    Drawn count (codes ++ [c]) (draw data c) := by
  obtain ⟨row, bit, hr, hb, hp, rfl⟩ := position_eq hc
  rw [PropertyMap.draw, hp]
  refine ⟨(List.length_modify _ _ _).trans h.length, ?_, fun row' hr' bit' hb' => ?_⟩
  · rw [List.getElem?_modify_ne _ _ (Nat.succ_ne_zero row)]
    exact h.head
  · rw [List.mem_append, List.mem_singleton, codeOf_inj hr' hb' hr hb, ← h.testBit row' hr' bit' hb']
    by_cases he : row' = row
    · have hi : row + 1 < data.length := by
        rw [h.length]
        omega
      rw [he, getD_modify_eq hi, UInt8.toNat_or, Nat.testBit_or, testBit_mask bit hb bit' hb']
      simp
    · rw [getD_modify_ne (by omega)]
      simp [he]

lemma Drawn.foldl (h : Drawn count codes data) (hl : ∀ c ∈ epcs, Property.lowestCode ≤ c) :
    Drawn count (codes ++ epcs) (epcs.foldl PropertyMap.draw data) := by
  induction epcs generalizing codes data with
  | nil => rwa [List.append_nil]
  | cons c epcs ih =>
    obtain ⟨hc, hcs⟩ := List.forall_mem_cons.mp hl
    rw [List.foldl_cons, ← List.singleton_append, ← List.append_assoc]
    exact ih (h.draw hc) hcs

lemma drawn_blank (count : UInt8) : Drawn count [] ((List.replicate tableSize 0).set 0 count) where
  length := rfl
  head := rfl
  testBit row hr bit _ := by
    have hz : (List.replicate 16 (0 : UInt8)).getD row 0 = 0 := by
      rw [List.getD_eq_getElem?_getD, List.getElem?_replicate_of_lt hr, Option.getD_some]
    have hd : (List.replicate tableSize (0 : UInt8)).set 0 count = count :: List.replicate 16 0 := rfl
    rw [hd, List.getD_cons_succ, hz]
    simp

lemma Drawn.eq_rows (h : Drawn count map.codes data) :
    data = count :: (List.range 16).map map.row := by
  obtain ⟨hl, hh, ht⟩ := h
  obtain _ | ⟨first, rows⟩ := data
  · cases hl
  obtain rfl : first = count := Option.some.inj hh
  congr 1
  apply List.ext_getElem
  · simpa using hl
  · intro i hi _
    have hi' : i < 16 := by
      rw [List.length_cons] at hl
      omega
    rw [List.getElem_map, List.getElem_range]
    apply eq_of_testBit
    intro bit hb
    have hbit := ht i hi' bit hb
    rw [List.getD_cons_succ, List.getD_eq_getElem?_getD, List.getElem?_eq_getElem hi,
      Option.getD_some, mem_codes] at hbit
    rw [testBit_row map i hb]
    exact Bool.eq_iff_iff.mpr hbit

lemma encode_eq (map : PropertyMap) : map.encode = UInt8.ofNat map.size ::
    if map.size ≤ longestList then map.codes else (List.range 16).map map.row := by
  rw [encode]
  split
  · rfl
  · exact ((drawn_blank _).foldl fun c => lowestCode_le_of_mem_codes).eq_rows

lemma mem_tableCodes {rows : Bytes} : c ∈ tableCodes rows ↔ ∃ row < 16, ∃ bit < 8,
    (rows.getD row 0).toNat.testBit bit = true ∧ codeOf row bit = c := by
  simp only [tableCodes, List.mem_flatMap, List.mem_filterMap, List.mem_range,
    Option.ite_none_right_eq_some, Option.some.injEq]

lemma mem_tableCodes_rows :
    c ∈ tableCodes ((List.range 16).map map.row) ↔ map.contains c = true := by
  rw [mem_tableCodes]
  constructor
  · rintro ⟨r, hr, bit, hb, hs, rfl⟩
    rwa [getD_rows map hr, testBit_row map r hb] at hs
  · intro h
    obtain ⟨r, bit, hr, hb, -, rfl⟩ := position_eq (lowestCode_le_iff.mpr (contains_iff.mp h).1)
    exact ⟨r, hr, bit, hb, by rwa [getD_rows map hr, testBit_row map r hb], rfl⟩

lemma ofList_tableCodes (map : PropertyMap) :
    ofList (tableCodes ((List.range 16).map map.row)) = map := by
  apply eq_of_contains
  intro c
  rw [contains_ofList, mem_tableCodes_rows, lowestCode_le_iff]
  exact and_iff_left_of_imp fun h => (contains_iff.mp h).1

lemma tableCodes_append {rows : Bytes} (hr : 16 ≤ rows.length) (trailing : Bytes) :
    tableCodes (rows ++ trailing) = tableCodes rows := by
  apply List.flatMap_congr
  intro row hrow
  have hi : row < rows.length := Nat.lt_of_lt_of_le (List.mem_range.mp hrow) hr
  simp only [List.getD_eq_getElem?_getD, List.getElem?_append_left hi]

lemma decode_encode_append (map : PropertyMap) (trailing : Bytes) :
    decode (map.encode ++ trailing) = .ok map := by
  rw [encode_eq]
  simp only [List.cons_append, decode, toNat_size]
  split
  case isTrue hlist =>
    have hn : ¬ (map.codes ++ trailing).length < map.size := by
      rw [List.length_append, size]
      omega
    have ht : (map.codes ++ trailing).take map.size = map.codes := List.take_left
    rw [if_neg hn, ht, ofList_codes]
  case isFalse htable =>
    have hl : ((List.range 16).map map.row).length = 16 := by simp
    rw [if_neg (by simp [tableSize]), tableCodes_append (Nat.le_of_eq hl.symm), ofList_tableCodes]

lemma decode_encode (map : PropertyMap) : decode map.encode = .ok map := by
  simpa using map.decode_encode_append []

example : encode (ofList [0x9F, 0x80, 0x8A]) = [3, 0x80, 0x8A, 0x9F] := by decide

end EchonetLite.PropertyMap

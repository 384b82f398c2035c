import EchonetLite.Proofs.Property.Written
import Mathlib.Data.Finset.Prod

/-! Which property data is a map, which codes it then holds, and when the map is written just as it
was read: the codes of a list are ascending, and the bits of a table are as many as its first byte
says. -/

namespace EchonetLite.PropertyMap

def setBits (rows : Bytes) : Finset (Nat × Nat) :=
  {place ∈ Finset.range 16 ×ˢ Finset.range 8 | (rows.getD place.1 0).toNat.testBit place.2}

inductive Unreadable : Bytes → Prop
  | empty : Unreadable []
  | shortList {count : UInt8} {rest : Bytes} : count.toNat ≤ 15 →
      (count :: rest).length < 1 + count.toNat → Unreadable (count :: rest)
  | shortTable {count : UInt8} {rest : Bytes} : 16 ≤ count.toNat →
      (count :: rest).length < 17 → Unreadable (count :: rest)

inductive Holds : Bytes → UInt8 → Prop
  | listed {count c : UInt8} {rest : Bytes} : count.toNat ≤ 15 → c ∈ rest.take count.toNat →
      0x80 ≤ c → Holds (count :: rest) c
  | drawn {count c : UInt8} {rest : Bytes} {row bit : Nat} : 16 ≤ count.toNat →
      (row, bit) ∈ setBits rest → c.toNat = 0x80 + row + 16 * bit → Holds (count :: rest) c

inductive Canonical : Bytes → Prop
  | listed {count : UInt8} {rest : Bytes} : count.toNat ≤ 15 →
      (rest.take count.toNat).Pairwise (· < ·) → (∀ c ∈ rest.take count.toNat, 0x80 ≤ c) →
      Canonical (count :: rest)
  | drawn {count : UInt8} {rest : Bytes} : 16 ≤ count.toNat →
      (setBits rest).card = count.toNat → Canonical (count :: rest)

inductive Reading : Bytes → Except Error PropertyMap → Prop
  | empty : Reading [] (.error (.protocol .emptyPropertyMap))
  | shortList {count : UInt8} {rest : Bytes} : count.toNat ≤ 15 → rest.length < count.toNat →
      Reading (count :: rest) (.error (.protocol (.shortCodeList count.toNat rest.length)))
  | listed {count : UInt8} {rest : Bytes} : count.toNat ≤ 15 → count.toNat ≤ rest.length →
      Reading (count :: rest) (.ok (ofList (rest.take count.toNat)))
  | shortTable {count : UInt8} {rest : Bytes} : 16 ≤ count.toNat → rest.length < 16 →
      Reading (count :: rest) (.error (.protocol (.shortBitmap (count :: rest).length)))
  | drawn {count : UInt8} {rest : Bytes} : 16 ≤ count.toNat → 16 ≤ rest.length →
      Reading (count :: rest) (.ok (ofList (tableCodes rest)))

variable {c count : UInt8} {rest rows : Bytes} {row bit : Nat}

lemma reading (data : Bytes) : Reading data (decode data) := by
  cases data with
  | nil => exact .empty
  | cons count rest =>
    simp only [decode]
    split
    case isTrue hl =>
      split
      case isTrue hs => exact .shortList hl hs
      case isFalse hs => exact .listed hl (Nat.not_lt.mp hs)
    case isFalse hl =>
      split
      case isTrue hs => exact .shortTable (Nat.not_le.mp hl) (Nat.lt_of_succ_lt_succ hs)
      case isFalse hs => exact .drawn (Nat.not_le.mp hl) (Nat.le_of_succ_le_succ (Nat.not_lt.mp hs))

lemma mem_setBits : (row, bit) ∈ setBits rows ↔
    (row < 16 ∧ bit < 8) ∧ (rows.getD row 0).toNat.testBit bit = true := by
  simp [setBits]

lemma mem_tableCodes_iff :
    c ∈ tableCodes rows ↔ ∃ row bit, (row, bit) ∈ setBits rows ∧ codeOf row bit = c := by
  rw [mem_tableCodes]
  constructor
  · rintro ⟨row, hr, bit, hb, ht, hc⟩
    exact ⟨row, bit, mem_setBits.mpr ⟨⟨hr, hb⟩, ht⟩, hc⟩
  · rintro ⟨row, bit, hset, hc⟩
    obtain ⟨⟨hr, hb⟩, ht⟩ := mem_setBits.mp hset
    exact ⟨row, hr, bit, hb, ht, hc⟩

lemma contains_tableCodes :
    (ofList (tableCodes rows)).contains c = true ↔
      ∃ row bit, (row, bit) ∈ setBits rows ∧ codeOf row bit = c := by
  rw [contains_ofList, mem_tableCodes_iff]
  apply and_iff_left_of_imp
  rintro ⟨row, bit, hset, rfl⟩
  obtain ⟨hr, hb⟩ := (mem_setBits.mp hset).1
  rw [lowestCode_le_iff, toNat_codeOf hr hb]
  omega

lemma codeOf_injOn (rows : Bytes) :
    Set.InjOn (fun place : Nat × Nat => codeOf place.1 place.2) (setBits rows) := by
  rintro ⟨row, bit⟩ hset ⟨row', bit'⟩ hset' he
  obtain ⟨hr, hb⟩ := (mem_setBits.mp hset).1
  obtain ⟨hr', hb'⟩ := (mem_setBits.mp hset').1
  obtain ⟨rfl, rfl⟩ := (codeOf_inj hr hb hr' hb').mp he
  rfl

lemma size_ofList_tableCodes (rows : Bytes) :
    (ofList (tableCodes rows)).size = (setBits rows).card := by
  rw [← Finset.card_image_of_injOn (codeOf_injOn rows)]
  symm
  apply card_eq_size
  intro c
  rw [contains_tableCodes]
  simp

lemma row_ofList_tableCodes (hr : row < 16) :
    (ofList (tableCodes rows)).row row = rows.getD row 0 := by
  apply eq_of_testBit
  intro bit hb
  rw [testBit_row _ _ hb, Bool.eq_iff_iff, contains_tableCodes]
  constructor
  · rintro ⟨row', bit', hset, he⟩
    have hplace := (mem_setBits.mp hset).1
    obtain ⟨rfl, rfl⟩ := (codeOf_inj hplace.1 hplace.2 hr hb).mp he
    exact (mem_setBits.mp hset).2
  · intro ht
    exact ⟨row, bit, mem_setBits.mpr ⟨⟨hr, hb⟩, ht⟩, rfl⟩

lemma rows_ofList_tableCodes (hl : 16 ≤ rows.length) :
    (List.range 16).map (ofList (tableCodes rows)).row = rows.take 16 := by
  apply List.ext_getElem
  · simp [hl]
  · intro i hi _
    have hi' : i < 16 := by simpa using hi
    rw [List.getElem_map, List.getElem_range, row_ofList_tableCodes hi', List.getElem_take,
      List.getD_eq_getElem?_getD, List.getElem?_eq_getElem (by omega), Option.getD_some]

lemma encode_of_size_le {map : PropertyMap} (hs : map.size ≤ 15) :
    map.encode = UInt8.ofNat map.size :: map.codes :=
  if_pos hs

lemma encode_of_lt_size {map : PropertyMap} (hs : 15 < map.size) :
    map.encode = UInt8.ofNat map.size :: (List.range 16).map map.row :=
  map.encode_eq.trans (congrArg (UInt8.ofNat map.size :: ·) (if_neg (Nat.not_le.mpr hs)))

lemma size_ofList_le (epcs : List UInt8) : (ofList epcs).size ≤ epcs.length := by
  have hn := nodup_of_ascending (codes_ascending (ofList epcs))
  apply (hn.subperm _).length_le
  intro c hc
  exact (contains_ofList.mp (mem_codes.mp hc)).1

lemma ofNat_size_eq_iff {map : PropertyMap} :
    UInt8.ofNat map.size = count ↔ map.size = count.toNat := by
  rw [← UInt8.toNat_inj, toNat_size]

lemma prefix_of_list_iff (hc : count.toNat ≤ 15) (hl : count.toNat ≤ rest.length) :
    (ofList (rest.take count.toNat)).encode <+: count :: rest ↔
      (rest.take count.toNat).Pairwise (· < ·) ∧ ∀ c ∈ rest.take count.toNat, 0x80 ≤ c := by
  have hlen : (rest.take count.toNat).length = count.toNat := by simpa using hl
  have hs := size_ofList_le (rest.take count.toNat)
  rw [encode_of_size_le (by omega), List.cons_prefix_cons, ofNat_size_eq_iff]
  constructor
  · rintro ⟨hsize, hp⟩
    have he : (ofList (rest.take count.toNat)).codes = rest.take count.toNat :=
      (List.prefix_iff_eq_take.mp hp).trans (congrArg (rest.take ·) hsize)
    rw [← he]
    exact ⟨codes_ascending _, fun c hc => lowestCode_le_of_mem_codes hc⟩
  · rintro ⟨ha, hlow⟩
    have he := codes_ofList ha hlow
    rw [size, he]
    exact ⟨hlen, List.take_prefix _ _⟩

lemma prefix_of_table_iff (hc : 16 ≤ count.toNat) (hl : 16 ≤ rest.length) :
    (ofList (tableCodes rest)).encode <+: count :: rest ↔ (setBits rest).card = count.toNat := by
  rw [← size_ofList_tableCodes]
  by_cases hs : (ofList (tableCodes rest)).size ≤ 15
  · rw [encode_of_size_le hs, List.cons_prefix_cons, ofNat_size_eq_iff]
    omega
  · rw [encode_of_lt_size (by omega), rows_ofList_tableCodes hl, List.cons_prefix_cons,
      ofNat_size_eq_iff]
    exact and_iff_left (List.take_prefix _ _)

lemma holds_list_iff (hc : count.toNat ≤ 15) :
    Holds (count :: rest) c ↔ c ∈ rest.take count.toNat ∧ 0x80 ≤ c := by
  constructor
  · rintro (⟨_, hm, hlow⟩ | ⟨ht, _⟩)
    · exact ⟨hm, hlow⟩
    · omega
  · rintro ⟨hm, hlow⟩
    exact .listed hc hm hlow

lemma holds_table_iff (hc : 16 ≤ count.toNat) :
    Holds (count :: rest) c ↔ ∃ row bit, (row, bit) ∈ setBits rest ∧ codeOf row bit = c := by
  constructor
  · rintro (⟨hl, _⟩ | @⟨_, _, _, row, bit, _, hset, he⟩)
    · omega
    · obtain ⟨hr, hb⟩ := (mem_setBits.mp hset).1
      exact ⟨row, bit, hset, UInt8.toNat_inj.mp ((toNat_codeOf hr hb).trans he.symm)⟩
  · rintro ⟨row, bit, hset, rfl⟩
    obtain ⟨hr, hb⟩ := (mem_setBits.mp hset).1
    exact .drawn hc hset (toNat_codeOf hr hb)

lemma canonical_list_iff (hc : count.toNat ≤ 15) : Canonical (count :: rest) ↔
    (rest.take count.toNat).Pairwise (· < ·) ∧ ∀ c ∈ rest.take count.toNat, 0x80 ≤ c := by
  constructor
  · rintro (⟨_, ha, hlow⟩ | ⟨ht, _⟩)
    · exact ⟨ha, hlow⟩
    · omega
  · rintro ⟨ha, hlow⟩
    exact .listed hc ha hlow

lemma canonical_table_iff (hc : 16 ≤ count.toNat) :
    Canonical (count :: rest) ↔ (setBits rest).card = count.toNat := by
  constructor
  · rintro (⟨hl, _⟩ | ⟨_, hset⟩)
    · omega
    · exact hset
  · exact .drawn hc

lemma unreadable_cons_iff : Unreadable (count :: rest) ↔
    count.toNat ≤ 15 ∧ rest.length < count.toNat ∨ 16 ≤ count.toNat ∧ rest.length < 16 := by
  constructor
  · rintro (_ | ⟨hc, hl⟩ | ⟨hc, hl⟩)
    · rw [List.length_cons] at hl
      omega
    · rw [List.length_cons] at hl
      omega
  · rintro (⟨hc, hl⟩ | ⟨hc, hl⟩)
    · exact .shortList hc (by simp; omega)
    · exact .shortTable hc (by simp; omega)

/-- Data is read as a map unless it is too short for what its first byte announces. The map holds the
codes of the list or of the table, whatever the first byte of a table says, and is written as the
data began exactly if the data is canonical. -/
theorem decode_reads (data : Bytes) :
    ((∃ e, decode data = .error e) ↔ Unreadable data) ∧
    ∀ map, decode data = .ok map →
      (∀ c, map.contains c = true ↔ Holds data c) ∧ (map.encode <+: data ↔ Canonical data) := by
  have hr := reading data
  generalize decode data = read at hr
  cases hr with
  | empty => exact ⟨iff_of_true ⟨_, rfl⟩ .empty, nofun⟩
  | shortList hc hl =>
    exact ⟨iff_of_true ⟨_, rfl⟩ (unreadable_cons_iff.mpr (.inl ⟨hc, hl⟩)), nofun⟩
  | shortTable hc hl =>
    exact ⟨iff_of_true ⟨_, rfl⟩ (unreadable_cons_iff.mpr (.inr ⟨hc, hl⟩)), nofun⟩
  | listed hc hl =>
    refine ⟨iff_of_false nofun (by rw [unreadable_cons_iff]; omega), ?_⟩
    rintro _ ⟨rfl⟩
    constructor
    · intro c
      rw [contains_ofList, holds_list_iff hc]
      rfl
    · rw [prefix_of_list_iff hc hl, canonical_list_iff hc]
  | drawn hc hl =>
    refine ⟨iff_of_false nofun (by rw [unreadable_cons_iff]; omega), ?_⟩
    rintro _ ⟨rfl⟩
    constructor
    · intro c
      rw [contains_tableCodes, holds_table_iff hc]
    · rw [prefix_of_table_iff hc hl, canonical_table_iff hc]

example : (decode [3, 0x9F, 0x10, 0x80, 0xFF]).map encode = .ok [2, 0x80, 0x9F] := by rfl

end EchonetLite.PropertyMap

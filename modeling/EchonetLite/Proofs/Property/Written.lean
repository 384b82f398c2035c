import EchonetLite.Proofs.Property.Maps
import Mathlib.Data.Finset.Card
import Mathlib.Data.Finset.Dedup

/-! A property map that is collected from codes is the set of those that a map can hold, and its
data is that set written out: a short one as a list, a long one as a table. -/

namespace EchonetLite.PropertyMap

structure Written (set : Finset UInt8) (data : Bytes) : Prop where
  count : ∃ count, data.head? = some count ∧ count.toNat = set.card
  listed : set.card ≤ 15 → data.length = 1 + set.card ∧ data.tail.Pairwise (· < ·) ∧
    ∀ c, c ∈ data.tail ↔ c ∈ set
  drawn : 15 < set.card → data.length = 17 ∧ ∀ c, Property.lowestCode ≤ c →
    ((data.getD (position c).1 0).toNat.testBit (position c).2 = true ↔ c ∈ set)

variable {map : PropertyMap} {c : UInt8} {set : Finset UInt8}

lemma card_eq_size (hs : ∀ c, map.contains c = true ↔ c ∈ set) : set.card = map.size := by
  have he : map.codes.toFinset = set := by
    ext c
    rw [List.mem_toFinset, mem_codes, hs]
  rw [← he, List.toFinset_card_of_nodup (nodup_of_ascending map.codes_ascending), size]

lemma testBit_rows (map : PropertyMap) (count : UInt8) (hc : Property.lowestCode ≤ c) :
    ((count :: (List.range 16).map map.row).getD (position c).1 0).toNat.testBit (position c).2 =
      map.contains c := by
  obtain ⟨row, bit, hr, hb, hp, rfl⟩ := position_eq hc
  rw [hp, List.getD_cons_succ, getD_rows map hr, testBit_row map row hb]

lemma written_encode (hs : ∀ c, map.contains c = true ↔ c ∈ set) : Written set map.encode where
  count := by
    rw [encode_eq]
    exact ⟨_, rfl, by rw [toNat_size, card_eq_size hs]⟩
  listed hl := by
    have hl' : map.size ≤ longestList := card_eq_size hs ▸ hl
    rw [encode_eq, if_pos hl']
    refine ⟨?_, map.codes_ascending, fun c => mem_codes.trans (hs c)⟩
    rw [List.length_cons, card_eq_size hs, size, Nat.add_comm]
  drawn hd := by
    have hd' : ¬ map.size ≤ longestList := Nat.not_le.mpr (card_eq_size hs ▸ hd)
    rw [encode_eq, if_neg hd']
    refine ⟨by simp, fun c hc => ?_⟩
    rw [testBit_rows map _ hc, hs]

/-- Codes below 80 are left out of the set, and nothing else is. Its data, with whatever follows it,
gives the set back. -/
theorem ofList_written (epcs : List UInt8) :
    (∀ c, (ofList epcs).contains c = true ↔
      c ∈ epcs.toFinset.filter (Property.lowestCode ≤ ·)) ∧
    Written (epcs.toFinset.filter (Property.lowestCode ≤ ·)) (ofList epcs).encode ∧
    ∀ trailing, decode ((ofList epcs).encode ++ trailing) = .ok (ofList epcs) := by
  have hs : ∀ c, (ofList epcs).contains c = true ↔
      c ∈ epcs.toFinset.filter (Property.lowestCode ≤ ·) := by
    intro c
    rw [contains_ofList, Finset.mem_filter, List.mem_toFinset]
  exact ⟨hs, written_encode hs, decode_encode_append (ofList epcs)⟩

end EchonetLite.PropertyMap

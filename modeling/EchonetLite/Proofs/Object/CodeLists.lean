import EchonetLite.Proofs.Bytes
import EchonetLite.Proofs.Object.CodeRows
import Mathlib.Algebra.Group.Nat.Defs
import Mathlib.Data.List.Nodup
import Mathlib.Tactic.Lemma

/-! Lists of object codes and of class codes. A list that is read back gives the codes that it was
written for, up to the limit. The classes of some objects stand in ascending order, each once. There
are too few codes for a count of devices or of their classes to outgrow its bytes. -/

namespace EchonetLite

lemma length_le_of_nodup {numbers : List Nat} {n : Nat} (hd : numbers.Nodup)
    (hn : ∀ x ∈ numbers, x < n) : numbers.length ≤ n := by
  have hs : numbers ⊆ List.range n := fun x hx => List.mem_range.mpr (hn x hx)
  rw [← List.length_range (n := n)]
  exact hd.length_le_of_subset hs

namespace ClassCode

lemma value_lt (c : ClassCode) : c.value < 2 ^ 16 := by
  have hp : 256 ^ 2 = 2 ^ 16 := by decide
  exact Nat.lt_of_lt_of_eq (Bytes.value_lt c.toBytes) hp

lemma value_injective : Function.Injective value := by
  rintro ⟨g, c⟩ ⟨g', c'⟩ h
  have hb : [g, c] = [g', c'] := Bytes.eq_of_value_eq rfl h
  obtain ⟨rfl, rfl⟩ : g = g' ∧ c = c' := by simpa using hb
  rfl

end ClassCode

namespace ObjectCode

lemma value_lt (o : ObjectCode) : o.value < 2 ^ 24 := by
  have hp : 256 ^ 3 = 2 ^ 24 := by decide
  exact Nat.lt_of_lt_of_eq (Bytes.value_lt o.toBytes) hp

lemma value_injective : Function.Injective value := by
  rintro ⟨g, c, i⟩ ⟨g', c', i'⟩ h
  have hb : [g, c, i] = [g', c', i'] := Bytes.eq_of_value_eq rfl h
  obtain ⟨rfl, rfl, rfl⟩ : g = g' ∧ c = c' ∧ i = i' := by simpa using hb
  rfl

lemma length_lt_of_devices {devices : List ObjectCode} (hn : devices.Nodup)
    (hd : ∀ c ∈ devices, c.isProfile = false) : devices.length < 2 ^ 24 := by
  have hp : nodeProfile ∉ devices := fun h => absurd (hd _ h) (by decide)
  have hl := length_le_of_nodup ((List.nodup_cons.mpr ⟨hp, hn⟩).map value_injective)
    (List.forall_mem_map.mpr fun c _ => c.value_lt)
  rw [List.length_map, List.length_cons] at hl
  omega

end ObjectCode

def InstanceList.codeRow : CodeRow ObjectCode where
  width := 3
  toBytes := ObjectCode.toBytes
  row := row
  width_pos := by decide
  length_toBytes _ := rfl
  exists_code bytes h := by
    obtain ⟨x, y, z, rfl⟩ := List.length_eq_three.mp h
    exact ⟨⟨x, y, z⟩, rfl⟩
  row_cons _ _ := rfl
  row_short bytes h := by
    match bytes with
    | [] | [_] | [_, _] => rfl
    | _ :: _ :: _ :: _ => simp only [List.length_cons] at h; omega

def ClassList.codeRow : CodeRow ClassCode where
  width := 2
  toBytes := ClassCode.toBytes
  row := row
  width_pos := by decide
  length_toBytes _ := rfl
  exists_code bytes h := by
    obtain ⟨x, y, rfl⟩ := List.length_eq_two.mp h
    exact ⟨⟨x, y⟩, rfl⟩
  row_cons _ _ := rfl
  row_short bytes h := by
    match bytes with
    | [] | [_] => rfl
    | _ :: _ :: _ => simp only [List.length_cons] at h; omega

namespace InstanceList

lemma encode_eq : encode = codeRow.encode limit := rfl

lemma decode_eq : decode = codeRow.decode := by
  funext bytes
  cases bytes <;> rfl

lemma decode_encode (codes : List ObjectCode) : decode (encode codes) = codes.take limit := by
  rw [decode_eq, encode_eq, CodeRow.decode_encode (by decide)]

lemma encode_take (codes : List ObjectCode) : encode (codes.take limit) = encode codes :=
  codeRow.encode_take codes

end InstanceList

namespace ClassList

variable {c d : ClassCode} {classes : List ClassCode} {codes : List ObjectCode}

lemma encode_eq : encode = codeRow.encode limit := rfl

lemma decode_eq : decode = codeRow.decode := by
  funext bytes
  cases bytes <;> rfl

lemma decode_encode (classes : List ClassCode) : decode (encode classes) = classes.take limit := by
  rw [decode_eq, encode_eq, CodeRow.decode_encode (by decide)]

lemma encode_take (classes : List ClassCode) : encode (classes.take limit) = encode classes :=
  codeRow.encode_take classes

def Ascending (classes : List ClassCode) : Prop := classes.Pairwise (·.value < ·.value)

lemma mem_insert : d ∈ insert c classes ↔ d = c ∨ d ∈ classes := by
  induction classes with
  | nil => exact List.mem_cons
  | cons e classes ih =>
    rw [insert]
    split
    · exact List.mem_cons
    · split
      case isTrue he => simp [he]
      case isFalse => rw [List.mem_cons, List.mem_cons, ih, or_left_comm]

lemma Ascending.insert (h : Ascending classes) : Ascending (insert c classes) := by
  induction classes with
  | nil => exact List.pairwise_singleton _ _
  | cons e classes ih =>
    obtain ⟨he, hs⟩ := List.pairwise_cons.mp h
    rw [ClassList.insert]
    split
    case isTrue hlt =>
      refine List.pairwise_cons.mpr ⟨?_, h⟩
      intro d hd
      rcases List.mem_cons.mp hd with rfl | hd
      · exact hlt
      · exact Nat.lt_trans hlt (he d hd)
    case isFalse hge =>
      split
      case isTrue => exact h
      case isFalse hne =>
        refine List.pairwise_cons.mpr ⟨?_, ih hs⟩
        intro d hd
        rcases mem_insert.mp hd with rfl | hd
        · have hv : d.value ≠ e.value := fun hv => hne (ClassCode.value_injective hv)
          omega
        · exact he d hd

lemma mem_ofObjects : c ∈ ofObjects codes ↔ c ∈ codes.map ObjectCode.objectClass := by
  induction codes with
  | nil => exact Iff.rfl
  | cons code codes ih =>
    rw [ofObjects, List.foldr_cons, mem_insert, List.map_cons, List.mem_cons, ← ih, ofObjects]

lemma ofObjects_ascending (codes : List ObjectCode) : Ascending (ofObjects codes) := by
  induction codes with
  | nil => exact List.Pairwise.nil
  | cons code codes ih => exact ih.insert

lemma length_ofObjects_lt (hd : ∀ c ∈ codes, c.isProfile = false) :
    (ofObjects codes).length + 1 < 2 ^ 16 := by
  have hp : ∀ i : UInt8, ⟨ObjectCode.profileGroup, i⟩ ∉ ofObjects codes := by
    intro i hi
    obtain ⟨code, hc, he⟩ := List.mem_map.mp (mem_ofObjects.mp hi)
    have hg : code.isProfile = true := beq_iff_eq.mpr (congrArg ClassCode.classGroup he)
    rw [hd code hc] at hg
    cases hg
  have hn : (ofObjects codes).Nodup := (ofObjects_ascending codes).imp fun h he =>
    absurd (congrArg ClassCode.value he) (Nat.ne_of_lt h)
  have hn' : (⟨ObjectCode.profileGroup, 0⟩ :: ⟨ObjectCode.profileGroup, 1⟩ ::
      ofObjects codes).Nodup := by
    refine List.nodup_cons.mpr ⟨?_, List.nodup_cons.mpr ⟨hp 1, hn⟩⟩
    rw [List.mem_cons, not_or]
    exact ⟨by decide, hp 0⟩
  have hl := length_le_of_nodup (hn'.map ClassCode.value_injective)
    (List.forall_mem_map.mpr fun c _ => c.value_lt)
  rw [List.length_map, List.length_cons, List.length_cons] at hl
  omega

end ClassList

/-- Lists of objects and lists of classes read back faithfully, up to their limits. -/
theorem lists_faithful :
    CodeRow.Faithful ObjectCode.toBytes 3 84 InstanceList.encode InstanceList.decode ∧
      CodeRow.Faithful ClassCode.toBytes 2 8 ClassList.encode ClassList.decode := by
  rw [InstanceList.encode_eq, InstanceList.decode_eq, ClassList.encode_eq, ClassList.decode_eq]
  have hi : InstanceList.codeRow.width * 84 < 255 := by decide
  have hc : ClassList.codeRow.width * 8 < 255 := by decide
  exact ⟨InstanceList.codeRow.faithful hi, ClassList.codeRow.faithful hc⟩

example :
    InstanceList.decode [2, 0x01, 0x30, 0x01, 0x02, 0x90] = [⟨0x01, 0x30, 0x01⟩] := by decide

end EchonetLite

import EchonetLite.Property.Basic

/-!
The properties of an object, one for each code, in ascending order of their codes.
-/
namespace EchonetLite

structure PropertyTable where
  toList : List Property := []
  ascending : (toList.map Property.epc).Pairwise (· < ·) := by exact List.Pairwise.nil
deriving DecidableEq

namespace PropertyTable

def empty : PropertyTable := {}

def find? (table : PropertyTable) (epc : UInt8) : Option Property :=
  table.toList.find? (·.epc == epc)

def insertInto (p : Property) : List Property → List Property
  | [] => [p]
  | q :: qs =>
    if p.epc < q.epc then p :: q :: qs
    else if p.epc = q.epc then p :: qs
    else q :: insertInto p qs

theorem mem_codes_insertInto {p : Property} {list : List Property} {epc : UInt8}
    (h : epc ∈ (insertInto p list).map Property.epc) :
    epc = p.epc ∨ epc ∈ list.map Property.epc := by
  induction list with
  | nil => simpa [insertInto] using h
  | cons q qs ih =>
    unfold insertInto at h
    split at h
    · simpa using h
    · split at h
      · simp only [List.map_cons, List.mem_cons] at h ⊢
        exact h.imp_right Or.inr
      · simp only [List.map_cons, List.mem_cons] at h ⊢
        rcases h with h | h
        · exact Or.inr (Or.inl h)
        · exact (ih h).imp_right Or.inr

theorem ascending_insertInto (p : Property) {list : List Property}
    (h : (list.map Property.epc).Pairwise (· < ·)) :
    ((insertInto p list).map Property.epc).Pairwise (· < ·) := by
  induction list with
  | nil => simp [insertInto]
  | cons q qs ih =>
    simp only [List.map_cons, List.pairwise_cons] at h
    unfold insertInto
    split
    · rename_i hlt
      simp only [List.map_cons, List.pairwise_cons]
      refine ⟨?_, h⟩
      intro x hx
      rcases List.mem_cons.mp hx with rfl | hx
      · exact hlt
      · exact UInt8.lt_trans hlt (h.1 x hx)
    · split
      · rename_i _ heq
        simp only [List.map_cons, List.pairwise_cons]
        exact ⟨heq ▸ h.1, h.2⟩
      · rename_i hlt heq
        simp only [List.map_cons, List.pairwise_cons]
        refine ⟨?_, ih h.2⟩
        intro x hx
        rcases mem_codes_insertInto hx with rfl | hx
        · exact UInt8.lt_of_le_of_ne (UInt8.not_lt.mp hlt) (Ne.symm heq)
        · exact h.1 x hx

def insert (table : PropertyTable) (p : Property) : PropertyTable :=
  ⟨insertInto p table.toList, ascending_insertInto p table.ascending⟩

def mapData (table : PropertyTable) (f : Property → Bytes) : PropertyTable :=
  ⟨table.toList.map fun p => { p with data := f p }, by
    simpa [List.map_map, Function.comp_def] using table.ascending⟩

def setData (table : PropertyTable) (epc : UInt8) (data : Bytes) : PropertyTable :=
  table.mapData fun p => if p.epc = epc then data else p.data

def setAccess (table : PropertyTable) (epc : UInt8) (access : Access) : PropertyTable :=
  ⟨table.toList.map fun p => if p.epc = epc then { p with access } else p, by
    have same : Property.epc ∘ (fun p : Property => if p.epc = epc then { p with access } else p)
        = Property.epc := by
      funext p
      simp only [Function.comp_apply]
      split <;> rfl
    rw [List.map_map, same]
    exact table.ascending⟩

def codesWhere (table : PropertyTable) (test : Property → Bool) : List UInt8 :=
  (table.toList.filter test).map Property.epc

end PropertyTable

end EchonetLite

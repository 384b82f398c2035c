import EchonetLite.Node.Outbox
import Mathlib.Tactic.Lemma

/-! Data written to an object entry by entry. Of several entries for one property the last one
counts, and apart from the data of the written properties the object stays as it was. -/

namespace EchonetLite

def Entry.lastData? (es : List Entry) (epc : UInt8) : Option Bytes :=
  (es.findRev? (·.epc == epc)).map Entry.edt

namespace Entry

lemma lastData?_cons (e : Entry) (es : List Entry) (epc : UInt8) :
    lastData? (e :: es) epc =
      (lastData? es epc).or (if epc = e.epc then some e.edt else none) := by
  simp only [lastData?]
  rw [List.findRev?]
  cases es.findRev? (·.epc == epc) with
  | some f => rfl
  | none =>
    by_cases h : epc = e.epc
    · simp [h]
    · simp [h, Ne.symm h]

lemma lastData?_eq_none {es : List Entry} {epc : UInt8} (h : ∀ e ∈ es, e.epc ≠ epc) :
    lastData? es epc = none := by
  induction es with
  | nil => rfl
  | cons e es ih =>
    obtain ⟨he, hes⟩ := List.forall_mem_cons.mp h
    rw [lastData?_cons, ih hes, if_neg he.symm]
    rfl

lemma lastData?_append_cons {before after : List Entry} {e : Entry}
    (h : ∀ f ∈ after, f.epc ≠ e.epc) :
    lastData? (before ++ e :: after) e.epc = some e.edt := by
  induction before with
  | nil => rw [List.nil_append, lastData?_cons, lastData?_eq_none h, if_pos rfl, Option.none_or]
  | cons d before ih => rw [List.cons_append, lastData?_cons, ih, Option.some_or]

lemma exists_of_lastData? {es : List Entry} {epc : UInt8} {data : Bytes}
    (h : lastData? es epc = some data) : ∃ e ∈ es, e.epc = epc ∧ e.edt = data := by
  induction es with
  | nil => cases h
  | cons e es ih =>
    rw [lastData?_cons] at h
    rcases Option.or_eq_some_iff.mp h with hl | ⟨_, hl⟩
    · obtain ⟨f, hf, hd⟩ := ih hl
      exact ⟨f, List.mem_cons_of_mem e hf, hd⟩
    · obtain ⟨he, hd⟩ := Option.ite_none_right_eq_some.mp hl
      exact ⟨e, List.mem_cons_self, he.symm, Option.some.inj hd⟩

lemma exists_lastData? {es : List Entry} {e : Entry} (he : e ∈ es) :
    ∃ data, lastData? es e.epc = some data := by
  cases hf : es.findRev? (·.epc == e.epc) with
  | none =>
    rw [List.findRev?_eq_find?_reverse] at hf
    have hn := List.find?_eq_none.mp hf e (List.mem_reverse.mpr he)
    exact absurd (beq_self_eq_true e.epc) hn
  | some f => exact ⟨f.edt, by rw [lastData?, hf]; rfl⟩

lemma lastData?_of_mem {es : List Entry} {e : Entry} (hn : (es.map Entry.epc).Nodup)
    (he : e ∈ es) : lastData? es e.epc = some e.edt := by
  obtain ⟨before, after, rfl⟩ := List.append_of_mem he
  apply lastData?_append_cons
  intro f hf
  rw [List.map_append, List.map_cons] at hn
  have hc := (List.nodup_cons.mp (List.nodup_append.mp hn).2.1).1
  exact fun h => hc (List.mem_map.mpr ⟨f, hf, h⟩)

end Entry

namespace PropertyTable

lemma eq_of_toList_eq {t t' : PropertyTable} (h : t.toList = t'.toList) : t = t' := by
  obtain ⟨list, _⟩ := t
  obtain ⟨list', _⟩ := t'
  obtain rfl : list = list' := h
  rfl

lemma epc_of_find? {t : PropertyTable} {epc : UInt8} {p : Property} (h : t.find? epc = some p) :
    p.epc = epc := by
  simpa using List.find?_some h

lemma find?_mapData (t : PropertyTable) (f : Property → Bytes) (epc : UInt8) :
    (t.mapData f).find? epc = (t.find? epc).map fun p => { p with data := f p } := by
  rw [find?, mapData]
  rw [List.find?_map]
  rfl

lemma mapData_mapData (t : PropertyTable) (f g : Property → Bytes) :
    (t.mapData f).mapData g = t.mapData fun p => g { p with data := f p } := by
  apply eq_of_toList_eq
  simp [mapData, Function.comp_def]

lemma mapData_data (t : PropertyTable) : t.mapData Property.data = t := by
  apply eq_of_toList_eq
  simp [mapData]

end PropertyTable

namespace Object

lemma property?_store (o : Object) (epc c : UInt8) (data : Bytes) :
    (o.store epc data).property? c =
      (o.property? c).map fun p => { p with data := if p.epc = epc then data else p.data } :=
  PropertyTable.find?_mapData _ _ _

def storeAll (o : Object) (es : List Entry) : Object :=
  es.foldl (fun o e => o.store e.epc e.edt) o

lemma storeAll_eq (o : Object) (es : List Entry) :
    o.storeAll es =
      { o with properties :=
          o.properties.mapData fun p => (Entry.lastData? es p.epc).getD p.data } := by
  induction es generalizing o with
  | nil =>
    change o = { o with properties := o.properties.mapData Property.data }
    rw [PropertyTable.mapData_data]
  | cons e es ih =>
    change (o.store e.epc e.edt).storeAll es = _
    rw [ih, store, PropertyTable.setData, PropertyTable.mapData_mapData]
    congr 2
    funext p
    rw [Entry.lastData?_cons]
    cases Entry.lastData? es p.epc with
    | some data => rfl
    | none => by_cases h : p.epc = e.epc <;> simp [h]

lemma property?_storeAll (o : Object) (es : List Entry) (epc : UInt8) :
    (o.storeAll es).property? epc = (o.property? epc).map fun p =>
      { p with data := (Entry.lastData? es epc).getD p.data } := by
  rw [storeAll_eq]
  simp only [property?]
  rw [PropertyTable.find?_mapData]
  cases hp : o.properties.find? epc with
  | none => rfl
  | some p => simp only [Option.map_some, PropertyTable.epc_of_find? hp]

structure Rewritten (o : Object) (es : List Entry) (o' : Object) : Prop where
  written : ∀ before e after, es = before ++ e :: after → (∀ f ∈ after, f.epc ≠ e.epc) →
    o'.data? e.epc = some e.edt
  kept : ∀ epc, (∀ e ∈ es, e.epc ≠ epc) → o'.property? epc = o.property? epc
  attributes : o'.properties.toList.map (fun p => (p.epc, p.access, p.parent)) =
    o.properties.toList.map fun p => (p.epc, p.access, p.parent)
  rest : { o' with properties := o.properties } = o

lemma rewritten_storeAll {o : Object} {es : List Entry}
    (he : ∀ e ∈ es, ∃ p, o.property? e.epc = some p) : o.Rewritten es (o.storeAll es) where
  written before e after hs hf := by
    obtain ⟨p, hp⟩ := he e (by simp [hs])
    rw [data?, property?_storeAll, hp, hs, Entry.lastData?_append_cons hf]
    rfl
  kept epc hk := by
    rw [property?_storeAll, Entry.lastData?_eq_none hk]
    exact Option.map_id'
  attributes := by
    rw [storeAll_eq]
    simp [PropertyTable.mapData, Function.comp_def]
  rest := by
    rw [storeAll_eq]

end Object

end EchonetLite

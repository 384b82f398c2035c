import EchonetLite.Proofs.Object.Maps

/-! What an object holds, code by code: the access to a property and its data. Each of the ways to
change an object says what it does to both. -/

namespace EchonetLite

namespace Object

variable {o : Object} {epc c : UInt8}

def access? (o : Object) (epc : UInt8) : Option Access := (o.property? epc).map Property.access

lemma access?_place (o : Object) (epc c : UInt8) (access : Access) (data : Bytes) :
    (o.place epc access data).access? c = if epc = c then some access else o.access? c := by
  rw [access?, property?_place]
  split <;> rfl

lemma access?_storeAll (o : Object) (es : List Entry) : (o.storeAll es).access? c = o.access? c := by
  rw [access?, property?_storeAll, Option.map_map]
  rfl

lemma access?_refreshMaps (o : Object) : o.refreshMaps.access? c = o.access? c := by
  rw [access?, property?_refreshMaps]
  exact o.access?_storeAll o.mapEntries

lemma data?_store (o : Object) (epc c : UInt8) (data : Bytes) :
    (o.store epc data).data? c =
      if c = epc then (o.data? c).map fun _ => data else o.data? c := by
  rw [data?, data?, property?_store]
  cases hp : o.property? c with
  | none => simp
  | some p =>
    have he : p.epc = c := PropertyTable.epc_of_find? hp
    by_cases h : c = epc <;> simp [he, h]

lemma data?_place (o : Object) (epc c : UInt8) (access : Access) (data : Bytes) :
    (o.place epc access data).data? c = if epc = c then some data else o.data? c := by
  rw [data?, property?_place]
  split <;> rfl

lemma property?_refreshMaps_of_ne (h : ∀ k : MapKind, k.epc ≠ c) :
    o.refreshMaps.property? c = o.property? c := by
  have hn : ∀ e ∈ o.mapEntries, e.epc ≠ c := by
    intro e he
    simp only [mapEntries, List.mem_cons, List.not_mem_nil, or_false] at he
    rcases he with rfl | rfl | rfl
    · exact h .readable
    · exact h .writable
    · exact h .announced
  rw [property?_refreshMaps, property?_storeAll, Entry.lastData?_eq_none hn]
  exact Option.map_id'

lemma data?_refreshMaps (h : ∀ k : MapKind, k.epc ≠ c) : o.refreshMaps.data? c = o.data? c := by
  rw [data?, data?, property?_refreshMaps_of_ne h]

lemma code_edit (o : Object) (e : Edit) : (o.edit e).code = o.code := by
  have h := o.edited e
  generalize o.edit e = o' at h
  cases h with
  | failed => rfl
  | placed => rfl
  | granted => rfl
  | stored => rfl

lemma code_editAll (o : Object) (es : List Edit) : (o.editAll es).code = o.code :=
  editAll_preserves (P := fun o' => o'.code = o.code) (fun e _ o' h => (o'.code_edit e).trans h) rfl

end Object

lemma Database.code_plainObject (code : ObjectCode) : (plainObject code).code = code := by
  rw [plainObject]
  split
  case isTrue hp =>
    obtain ⟨group, c, i⟩ := code
    obtain rfl : group = ObjectCode.profileGroup := beq_iff_eq.mp hp
    rfl
  case isFalse => rfl

lemma Database.code_createObject (db : Database) (code : ObjectCode) :
    (db.createObject code).code = code := by
  obtain ⟨es, _, he⟩ := Object.createObject_eq db code
  rw [he, Object.code_editAll, code_plainObject]

end EchonetLite

import EchonetLite.Proofs.Object.Description
import EchonetLite.Proofs.Object.Edits
import EchonetLite.Proofs.Property.Maps
import Mathlib.Data.List.Induction

/-! The property maps of an object follow its properties, whatever is done to the object. The data
of the properties that hold the maps follow the maps, unless they were written over. -/

namespace EchonetLite

namespace PropertyTable

variable {t : PropertyTable} {p q : Property}

lemma mem_insertInto {list : List Property} (h : q ∈ insertInto p list) : q = p ∨ q ∈ list := by
  induction list with
  | nil => exact .inl (List.mem_singleton.mp h)
  | cons r list ih =>
    rw [insertInto] at h
    split at h
    · exact List.mem_cons.mp h
    · split at h
      · exact (List.mem_cons.mp h).imp_right (List.mem_cons_of_mem _)
      · rcases List.mem_cons.mp h with rfl | h
        · exact .inr List.mem_cons_self
        · exact (ih h).imp_right (List.mem_cons_of_mem _)

lemma codesWhere_ascending (t : PropertyTable) (test : Property → Bool) :
    (t.codesWhere test).Pairwise (· < ·) :=
  t.ascending.sublist (List.filter_sublist.map _)

lemma codesWhere_mapData (t : PropertyTable) (f : Property → Bytes) (test : Access → Bool) :
    (t.mapData f).codesWhere (test ·.access) = t.codesWhere (test ·.access) := by
  simp only [codesWhere, mapData, List.filter_map, List.map_map]
  rfl

end PropertyTable

inductive MapKind where
  | readable
  | writable
  | announced

namespace MapKind

def epc : MapKind → UInt8
  | readable => Epc.getMap
  | writable => Epc.setMap
  | announced => Epc.announceMap

def grantedBy : MapKind → Access → Bool
  | readable => Access.readable
  | writable => Access.writable
  | announced => Access.announceable

end MapKind

namespace Object

def map (o : Object) : MapKind → PropertyMap
  | .readable => o.getMap
  | .writable => o.setMap
  | .announced => o.announceMap

def codesGranting (o : Object) (k : MapKind) : List UInt8 :=
  o.properties.codesWhere (k.grantedBy ·.access)

structure Owned (o : Object) : Prop where
  lowest : ∀ p ∈ o.properties.toList, Property.lowestCode ≤ p.epc
  parent : ∀ p ∈ o.properties.toList, p.parent = some o.code

def Mapped (o : Object) : Prop := ∀ k, o.map k = .ofList (o.codesGranting k)

def Shows (o : Object) (k : MapKind) : Prop :=
  ∀ p, o.property? k.epc = some p → p.data = (o.map k).encode

def mapEntries (o : Object) : List Entry :=
  [⟨Epc.getMap, (PropertyMap.ofList (o.codesGranting .readable)).encode⟩,
    ⟨Epc.setMap, (PropertyMap.ofList (o.codesGranting .writable)).encode⟩,
    ⟨Epc.announceMap, (PropertyMap.ofList (o.codesGranting .announced)).encode⟩]

variable {o : Object} {epc : UInt8} {access : Access} {data : Bytes}

lemma owned_bare (code : ObjectCode) : (bare code).Owned := ⟨nofun, nofun⟩

lemma Owned.place (h : o.Owned) (he : Property.lowestCode ≤ epc) (access : Access) (data : Bytes) :
    (o.place epc access data).Owned where
  lowest p hp := by
    rcases PropertyTable.mem_insertInto hp with rfl | hp
    · exact he
    · exact h.lowest p hp
  parent p hp := by
    rcases PropertyTable.mem_insertInto hp with rfl | hp
    · rfl
    · exact h.parent p hp

lemma Owned.storeAll (h : o.Owned) (es : List Entry) : (o.storeAll es).Owned := by
  rw [storeAll_eq]
  constructor
  · intro p hp
    obtain ⟨q, hq, rfl⟩ := List.mem_map.mp hp
    exact h.lowest q hq
  · intro p hp
    obtain ⟨q, hq, rfl⟩ := List.mem_map.mp hp
    exact h.parent q hq

lemma Owned.setAccess (h : o.Owned) (epc : UInt8) (access : Access) :
    Owned { o with properties := o.properties.setAccess epc access } := by
  constructor
  · intro p hp
    obtain ⟨q, hq, rfl⟩ := List.mem_map.mp hp
    have hl := h.lowest q hq
    split <;> exact hl
  · intro p hp
    obtain ⟨q, hq, rfl⟩ := List.mem_map.mp hp
    have hl := h.parent q hq
    split <;> exact hl

lemma map_storeAll (o : Object) (es : List Entry) (k : MapKind) :
    (o.storeAll es).map k = o.map k := by
  rw [storeAll_eq]
  cases k <;> rfl

lemma codesGranting_storeAll (o : Object) (es : List Entry) (k : MapKind) :
    (o.storeAll es).codesGranting k = o.codesGranting k := by
  rw [storeAll_eq]
  exact PropertyTable.codesWhere_mapData _ _ _

lemma Mapped.storeAll (h : o.Mapped) (es : List Entry) : (o.storeAll es).Mapped := by
  intro k
  rw [map_storeAll, codesGranting_storeAll]
  exact h k

lemma Shows.storeAll {k : MapKind} (h : o.Shows k) {es : List Entry}
    (hk : ∀ e ∈ es, e.epc ≠ k.epc) : (o.storeAll es).Shows k := by
  intro p hp
  rw [property?_storeAll, Entry.lastData?_eq_none hk] at hp
  rw [map_storeAll]
  exact h p (by simpa using hp)

def withMaps (o : Object) (map : MapKind → PropertyMap) : Object :=
  { o with
    getMap := map .readable
    setMap := map .writable
    announceMap := map .announced }

lemma property?_withMaps (o : Object) (map : MapKind → PropertyMap) (epc : UInt8) :
    (o.withMaps map).property? epc = o.property? epc := rfl

lemma codesGranting_withMaps (o : Object) (map : MapKind → PropertyMap) (k : MapKind) :
    (o.withMaps map).codesGranting k = o.codesGranting k := rfl

lemma map_withMaps (o : Object) (map : MapKind → PropertyMap) (k : MapKind) :
    (o.withMaps map).map k = map k := by
  cases k <;> rfl

lemma Owned.withMaps (h : o.Owned) (map : MapKind → PropertyMap) : (o.withMaps map).Owned :=
  ⟨h.lowest, h.parent⟩

lemma refreshMaps_eq (o : Object) :
    o.refreshMaps = (o.storeAll o.mapEntries).withMaps fun k => .ofList (o.codesGranting k) := by
  have hr : o.properties.codesWhere Property.isReadable = o.codesGranting .readable := rfl
  have hw : o.properties.codesWhere Property.isWritable = o.codesGranting .writable := rfl
  have ha : o.properties.codesWhere Property.isAnnounceable = o.codesGranting .announced := rfl
  simp only [refreshMaps, hr, hw, ha, withMaps, storeAll, mapEntries, List.foldl_cons,
    List.foldl_nil]

lemma Owned.refreshMaps (h : o.Owned) : o.refreshMaps.Owned := by
  rw [refreshMaps_eq]
  exact (h.storeAll o.mapEntries).withMaps _

lemma property?_refreshMaps (o : Object) (epc : UInt8) :
    o.refreshMaps.property? epc = (o.storeAll o.mapEntries).property? epc := by
  rw [refreshMaps_eq, property?_withMaps]

lemma mapped_refreshMaps (o : Object) : o.refreshMaps.Mapped := by
  intro k
  rw [refreshMaps_eq, map_withMaps, codesGranting_withMaps, codesGranting_storeAll]

lemma lastData?_mapEntries (o : Object) (k : MapKind) :
    Entry.lastData? o.mapEntries k.epc = some (PropertyMap.ofList (o.codesGranting k)).encode := by
  have hw : Epc.getMap ≠ Epc.setMap := by decide
  have ha : Epc.getMap ≠ Epc.announceMap := by decide
  have hs : Epc.setMap ≠ Epc.announceMap := by decide
  have hn : ∀ epc, Entry.lastData? [] epc = none := fun _ => rfl
  simp only [mapEntries, Entry.lastData?_cons, hn]
  cases k <;> simp [MapKind.epc, hw, ha, hs, hw.symm, ha.symm, hs.symm]

lemma shows_refreshMaps (o : Object) (k : MapKind) : o.refreshMaps.Shows k := by
  intro p hp
  rw [property?_refreshMaps, property?_storeAll, lastData?_mapEntries] at hp
  obtain ⟨q, _, rfl⟩ := Option.map_eq_some_iff.mp hp
  rw [refreshMaps_eq, map_withMaps, Option.getD_some]

structure Settled (o : Object) : Prop where
  owned : o.Owned
  mapped : o.Mapped
  shows : ∀ k, o.Shows k

lemma Owned.settled (h : o.Owned) : o.refreshMaps.Settled :=
  ⟨h.refreshMaps, mapped_refreshMaps o, shows_refreshMaps o⟩

lemma settled_bare (code : ObjectCode) : (bare code).Settled where
  owned := owned_bare code
  mapped k := by cases k <;> rfl
  shows k := nofun

lemma settled_basic (code : ObjectCode) : (basic code).Settled := by
  refine Owned.settled ?_
  iterate 5 refine Owned.place ?_ (by decide) _ _
  exact owned_bare code

lemma settled_device (code : ObjectCode) : (device code).Settled := by
  refine Owned.settled ?_
  iterate 3 refine Owned.place ?_ (by decide) _ _
  exact (settled_basic code).owned

lemma settled_profile (classCode instanceCode : UInt8) :
    (profile classCode instanceCode).Settled := by
  refine Owned.settled ?_
  refine Owned.place ?_ (by decide) _ _
  exact (settled_basic _).owned

lemma Settled.storeAll (h : o.Settled) {es : List Entry}
    (hk : ∀ k : MapKind, ∀ e ∈ es, e.epc ≠ k.epc) : (o.storeAll es).Settled where
  owned := h.owned.storeAll es
  mapped := h.mapped.storeAll es
  shows k := (h.shows k).storeAll (hk k)

lemma Settled.describeDevices (h : o.Settled) (devices : List ObjectCode) :
    (o.describeDevices devices).Settled := by
  rw [describeDevices_eq]
  refine h.storeAll ?_
  intro k e he hk
  have hm : e.epc ∈ (deviceEntries devices).map Entry.epc := List.mem_map_of_mem he
  rw [map_epc_deviceEntries, hk] at hm
  cases k <;> exact absurd hm (by decide)

lemma settled_nodeProfile (manufacturer : UInt32) (sendOnly : Bool) (serial : Serial) :
    (nodeProfile manufacturer sendOnly serial).Settled := by
  refine Settled.describeDevices (Owned.settled ?_) []
  iterate 7 refine Owned.place ?_ (by decide) _ _
  exact (settled_profile _ _).owned.storeAll [⟨Epc.manufacturer, _⟩]

lemma Edited.settled {o' : Object} {e : Edit} (he : o.Edited e o') (h : o.Settled)
    (hr : e.Rearranges) : o'.Settled := by
  cases he with
  | failed => exact h
  | placed _ hlow => exact (h.owned.place hlow _ _).settled
  | granted => exact (h.owned.setAccess _ _).settled
  | stored hn => exact absurd hr hn

lemma settled_editAll {es : List Edit} (h : o.Settled) (hr : ∀ e ∈ es, e.Rearranges) :
    (o.editAll es).Settled :=
  editAll_preserves (fun e he o ho => (o.edited e).settled ho (hr e he)) h

lemma settled_createObject (db : Database) (code : ObjectCode) :
    (db.createObject code).Settled := by
  obtain ⟨es, ha, he⟩ := createObject_eq db code
  have hr : ∀ e ∈ es, e.Rearranges := by
    intro e hm
    obtain ⟨epc, access, rfl⟩ := ha e hm
    exact .add epc access
  rw [he]
  refine settled_editAll ?_ hr
  rw [Database.plainObject]
  split
  · exact settled_profile _ _
  · exact settled_device code

lemma Origin.settled (origin : Origin) : origin.object.Settled := by
  cases origin with
  | bare code => exact settled_bare code
  | basic code => exact settled_basic code
  | device code => exact settled_device code
  | profile classCode instanceCode => exact settled_profile classCode instanceCode
  | nodeProfile manufacturer sendOnly serial => exact settled_nodeProfile _ _ _
  | template db code => exact settled_createObject db code

def Rearranged (o : Object) (e : Edit) : Prop := e.Rearranges ∧ (o.perform e).1 = .ok ()

def EverRearranged (o : Object) : List Edit → Prop
  | [] => False
  | e :: es => o.Rearranged e ∨ (o.edit e).EverRearranged es

/-- One of the edits wrote the data of the property, and none after it changed which properties
there are or what access they grant. -/
def Overwritten (o : Object) (es : List Edit) (epc : UInt8) : Prop :=
  ∃ before e after, es = before ++ e :: after ∧ e.Writes epc ∧
    ¬ (o.editAll (before ++ [e])).EverRearranged after

variable {o' : Object} {e : Edit} {es : List Edit} {k : MapKind}

lemma Edited.owned (h : o.Edited e o') (ho : o.Owned) : o'.Owned := by
  cases h with
  | failed => exact ho
  | placed _ hlow => exact (ho.place hlow _ _).refreshMaps
  | granted => exact (ho.setAccess _ _).refreshMaps
  | @stored epc data => exact ho.storeAll [⟨epc, data⟩]

lemma Edited.mapped (h : o.Edited e o') (hm : o.Mapped) : o'.Mapped := by
  cases h with
  | failed => exact hm
  | placed => exact mapped_refreshMaps _
  | granted => exact mapped_refreshMaps _
  | @stored epc data => exact hm.storeAll [⟨epc, data⟩]

lemma Edited.shows_of_rearranged (h : o.Edited e o') (hr : o.Rearranged e) : o'.Shows k := by
  obtain ⟨he, ho⟩ := hr
  cases h with
  | failed hf =>
    rw [ho] at hf
    cases hf
  | placed => exact shows_refreshMaps _ k
  | granted => exact shows_refreshMaps _ k
  | stored hn => exact absurd he hn

lemma Edited.shows (h : o.Edited e o') (hs : o.Shows k) (hw : ¬ e.Writes k.epc) : o'.Shows k := by
  cases h with
  | failed => exact hs
  | placed => exact shows_refreshMaps _ k
  | granted => exact shows_refreshMaps _ k
  | @stored epc data _ he =>
    have hn : ∀ e' ∈ [(⟨epc, data⟩ : Entry)], e'.epc ≠ k.epc := by
      intro e' hm hk
      obtain rfl := List.mem_singleton.mp hm
      exact hw (hk ▸ he)
    exact hs.storeAll hn

lemma everRearranged_concat (h : (o.EverRearranged (es ++ [e]))) :
    o.EverRearranged es ∨ (o.editAll es).Rearranged e := by
  induction es generalizing o with
  | nil => exact .inr (h.resolve_right id)
  | cons d es ih =>
    rcases h with h | h
    · exact .inl (.inl h)
    · exact (ih h).imp_left .inr

lemma Overwritten.concat {epc : UInt8} (h : o.Overwritten es epc)
    (hr : ¬ (o.editAll es).Rearranged e) : o.Overwritten (es ++ [e]) epc := by
  obtain ⟨before, d, after, rfl, hd, ha⟩ := h
  refine ⟨before, d, after ++ [e], by simp, hd, ?_⟩
  intro h
  rcases everRearranged_concat h with h | h
  · exact ha h
  · rw [← editAll_append] at h
    exact hr (by simpa using h)

lemma owned_editAll (ho : o.Owned) (es : List Edit) : (o.editAll es).Owned :=
  editAll_preserves (fun e _ o h => (o.edited e).owned h) ho

lemma mapped_editAll (hm : o.Mapped) (es : List Edit) : (o.editAll es).Mapped :=
  editAll_preserves (fun e _ o h => (o.edited e).mapped h) hm

lemma shows_or_overwritten (hs : o.Shows k) (es : List Edit) :
    (o.editAll es).Shows k ∨ o.Overwritten es k.epc := by
  induction es using List.reverseRecOn with
  | nil => exact .inl hs
  | append_singleton es e ih =>
    have he : (o.editAll es).Edited e (o.editAll (es ++ [e])) := by
      rw [editAll_append]
      exact edited _ e
    by_cases hr : (o.editAll es).Rearranged e
    · exact .inl (he.shows_of_rearranged hr)
    by_cases hw : e.Writes k.epc
    · exact .inr ⟨es, e, [], rfl, hw, id⟩
    · exact ih.imp (he.shows · hw) (Overwritten.concat · hr)

lemma Mapped.codes_eq (hm : o.Mapped) (ho : o.Owned) (k : MapKind) :
    (o.map k).codes = o.codesGranting k := by
  rw [hm k]
  apply PropertyMap.codes_ofList (PropertyTable.codesWhere_ascending _ _)
  intro c hc
  obtain ⟨p, hp, rfl⟩ := List.mem_map.mp hc
  exact ho.lowest p (List.mem_filter.mp hp).1

/-- Whatever is done to an object, its properties are its own, its maps are the codes of the
properties that can be read, written, and announced, and the properties that hold the maps show them
except where they were written over. -/
theorem editAll_keeps_maps (origin : Origin) (es : List Edit) :
    (origin.object.editAll es).Owned ∧
      ∀ k : MapKind,
        ((origin.object.editAll es).map k).codes = (origin.object.editAll es).codesGranting k ∧
          ((origin.object.editAll es).Shows k ∨ origin.object.Overwritten es k.epc) := by
  have hs := origin.settled
  have ho := owned_editAll hs.owned es
  refine ⟨ho, fun k => ⟨?_, shows_or_overwritten (hs.shows k) es⟩⟩
  exact (mapped_editAll hs.mapped es).codes_eq ho k

example : ((bare ⟨0x02, 0x90, 0x01⟩).editAll [.addWithData Epc.getMap .read [7]]).data? Epc.getMap =
    some [1, Epc.getMap] := by decide

end Object

end EchonetLite

import EchonetLite.Proofs.Node.Serving
import EchonetLite.Proofs.Object.Maps

/-! An object accepts what it advertises. The maps that a peer reads from the properties of an
object say which requests to the object are carried out. -/

namespace EchonetLite

namespace Object

def Has (o : Object) (epc : UInt8) : Prop := ∃ p, o.property? epc = some p

variable {o o' : Object} {epc c : UInt8} {e : Edit} {k : MapKind}

lemma has_place (o : Object) (epc : UInt8) (access : Access) (data : Bytes) :
    (o.place epc access data).Has epc :=
  ⟨_, by rw [property?_place, if_pos rfl]⟩

lemma Has.place (h : o.Has c) (epc : UInt8) (access : Access) (data : Bytes) :
    (o.place epc access data).Has c := by
  obtain ⟨p, hp⟩ := h
  rw [Has, property?_place]
  split
  · exact ⟨_, rfl⟩
  · exact ⟨p, hp⟩

lemma Has.storeAll (h : o.Has c) (es : List Entry) : (o.storeAll es).Has c := by
  obtain ⟨p, hp⟩ := h
  exact ⟨_, by rw [property?_storeAll, hp, Option.map_some]⟩

lemma Has.setAccess (h : o.Has c) (epc : UInt8) (access : Access) :
    Has { o with properties := o.properties.setAccess epc access } c := by
  obtain ⟨p, hp⟩ := h
  exact ⟨_, (PropertyTable.find?_setAccess _ _ _ _).trans (congrArg (Option.map _) hp)⟩

lemma Has.refreshMaps (h : o.Has c) : o.refreshMaps.Has c := by
  rw [Has, property?_refreshMaps]
  exact h.storeAll _

lemma Has.describeDevices (h : o.Has c) (devices : List ObjectCode) :
    (o.describeDevices devices).Has c := by
  rw [describeDevices_eq]
  exact h.storeAll _

lemma Edited.has (he : o.Edited e o') (h : o.Has c) : o'.Has c := by
  cases he with
  | failed => exact h
  | placed => exact (h.place _ _ _).refreshMaps
  | granted => exact (h.setAccess _ _).refreshMaps
  | @stored epc data => exact h.storeAll [⟨epc, data⟩]

lemma has_editAll (h : o.Has c) (es : List Edit) : (o.editAll es).Has c :=
  editAll_preserves (fun e _ o ho => (o.edited e).has ho) h

lemma basic_has_map (code : ObjectCode) (k : MapKind) : (basic code).Has k.epc := by
  refine Has.refreshMaps ?_
  cases k with
  | readable => exact has_place _ _ _ _
  | writable => exact (has_place _ _ _ _).place _ _ _
  | announced => exact ((has_place _ _ _ _).place _ _ _).place _ _ _

lemma device_has_map (code : ObjectCode) (k : MapKind) : (device code).Has k.epc := by
  refine Has.refreshMaps ?_
  iterate 3 refine Has.place ?_ _ _ _
  exact basic_has_map code k

lemma profile_has_map (classCode instanceCode : UInt8) (k : MapKind) :
    (profile classCode instanceCode).Has k.epc := by
  refine Has.refreshMaps ?_
  refine Has.place ?_ _ _ _
  exact basic_has_map _ k

lemma nodeProfile_has_map (manufacturer : UInt32) (sendOnly : Bool) (serial : Serial)
    (k : MapKind) : (nodeProfile manufacturer sendOnly serial).Has k.epc := by
  refine Has.describeDevices (Has.refreshMaps ?_) []
  iterate 7 refine Has.place ?_ _ _ _
  exact (profile_has_map _ _ k).storeAll [⟨Epc.manufacturer, _⟩]

lemma createObject_has_map (db : Database) (code : ObjectCode) (k : MapKind) :
    (db.createObject code).Has k.epc := by
  obtain ⟨es, _, he⟩ := createObject_eq db code
  rw [he]
  refine has_editAll ?_ es
  rw [Database.plainObject]
  split
  · exact profile_has_map _ _ k
  · exact device_has_map code k

lemma Origin.has_map {origin : Origin} (hb : ∀ code, origin ≠ .bare code) (k : MapKind) :
    origin.object.Has k.epc := by
  cases origin with
  | bare code => exact absurd rfl (hb code)
  | basic code => exact basic_has_map code k
  | device code => exact device_has_map code k
  | profile classCode instanceCode => exact profile_has_map classCode instanceCode k
  | nodeProfile manufacturer sendOnly serial => exact nodeProfile_has_map _ _ _ k
  | template db code => exact createObject_has_map db code k

lemma shows_editAll {es : List Edit} (hs : o.Shows k) (hw : ∀ e ∈ es, ¬ e.Writes k.epc) :
    (o.editAll es).Shows k :=
  editAll_preserves (fun e he o ho => (o.edited e).shows ho (hw e he)) hs

lemma mem_codesGranting :
    c ∈ o.codesGranting k ↔ ∃ p, o.property? c = some p ∧ k.grantedBy p.access = true := by
  rw [codesGranting, PropertyTable.codesWhere, List.mem_map]
  constructor
  · rintro ⟨p, hp, rfl⟩
    obtain ⟨hm, hg⟩ := List.mem_filter.mp hp
    exact ⟨p, PropertyTable.find?_of_mem hm, hg⟩
  · rintro ⟨p, hp, hg⟩
    refine ⟨p, List.mem_filter.mpr ⟨List.mem_of_find?_eq_some hp, hg⟩, ?_⟩
    exact PropertyTable.epc_of_find? hp

def FitsStored (o : Object) (es : List Entry) : Prop :=
  ∀ e ∈ es, ∀ p, o.property? e.epc = some p → p.data = [] ∨ e.edt.length = p.data.length

end Object

namespace MapKind

def request : MapKind → Service
  | readable => .get
  | writable => .setC
  | announced => .infReq

def response : MapKind → Service
  | readable => .getRes
  | writable => .setRes
  | announced => .inf

lemma exchange (k : MapKind) : ∃ refusal, k.request.Exchange (some k.response) refusal := by
  cases k with
  | readable => exact ⟨_, .get⟩
  | writable => exact ⟨_, .setC⟩
  | announced => exact ⟨_, .infReq⟩

lemma permits_iff {k : MapKind} {a : Access} : a.Permits k.request ↔ k.grantedBy a = true := by
  constructor
  · intro h
    cases k with
    | readable => cases h with
      | read _ h => exact h
      | _ h => exact absurd h (by decide)
    | writable => cases h with
      | write _ h => exact h
      | _ h => exact absurd h (by decide)
    | announced => cases h with
      | inform _ h => exact h
      | _ h => exact absurd h (by decide)
  · intro h
    cases k with
    | readable => exact .read rfl h
    | writable => exact .write (.inr rfl) h
    | announced => exact .inform rfl h

lemma writable_of_writes {k : MapKind} (h : k.request.Writes) : k = .writable := by
  cases k with
  | readable => exact absurd h (by decide)
  | writable => rfl
  | announced => exact absurd h (by decide)

end MapKind

namespace Object

variable {o : Object} {k : MapKind} {es : List Entry}

lemma not_refuses_iff {e : Entry} (he : e ∈ es) (hf : k = .writable → o.FitsStored es) :
    ¬ o.Refuses k.request e ↔ e.epc ∈ o.codesGranting k := by
  rw [mem_codesGranting]
  constructor
  · intro hr
    obtain ⟨p, hp⟩ := exists_property hr
    rw [refuses_iff hp, not_or, not_not, MapKind.permits_iff] at hr
    exact ⟨p, hp, hr.1⟩
  · rintro ⟨p, hp, hg⟩
    rw [refuses_iff hp, MapKind.permits_iff]
    rintro (hd | ⟨hw, hz, hl⟩)
    · exact hd hg
    · rcases hf (MapKind.writable_of_writes hw) e he p hp with hn | hn
      · exact hz (congrArg List.length hn)
      · exact hl hn.symm

lemma property?_attached (o : Object) (attached : Bool) (epc : UInt8) :
    ({ o with attached } : Object).property? epc = o.property? epc := rfl

end Object

/-- An object that has the maps to show, and whose maps nobody wrote over, answers the reads, the
notification requests, and the writes of fitting data that its maps promise, and refuses the
others. -/
theorem NodeObjects.handle_advertised (n : NodeObjects) (m : Message) (out : Outbox)
    (h : HostedObject) (put : HostedObject → NodeObjects) (origin : Object.Origin)
    (edits : List Object.Edit) (ha : n.Addressed m.deoj h put) (hl : h.listener = none)
    (hb : ∀ code, origin ≠ .bare code) (hw : ∀ k : MapKind, ∀ e ∈ edits, ¬ e.Writes k.epc)
    (ho : h.object = { origin.object.editAll edits with attached := h.object.attached })
    (k : MapKind) :
    ∃ data map, h.object.data? k.epc = some data ∧ PropertyMap.decode data = .ok map ∧
      (m.esv = k.request → (k = .writable → h.object.FitsStored m.entries) →
        ((∃ a, (n.handle m out).answer = some a ∧ a.esv = k.response) ↔
          ∀ e ∈ m.entries, map.contains e.epc = true)) := by
  have hs := origin.settled
  obtain ⟨p, hp⟩ := Object.has_editAll (Object.Origin.has_map hb k) edits
  have hshow := Object.shows_editAll (hs.shows k) (hw k) p hp
  have hcodes := (Object.mapped_editAll hs.mapped edits).codes_eq
    (Object.owned_editAll hs.owned edits) k
  have hprop : ∀ epc, h.object.property? epc = (origin.object.editAll edits).property? epc := by
    intro epc
    rw [ho, Object.property?_attached]
  have hgrant : ∀ c, c ∈ h.object.codesGranting k ↔
      ((origin.object.editAll edits).map k).contains c = true := by
    intro c
    rw [← PropertyMap.mem_codes, hcodes, Object.mem_codesGranting, Object.mem_codesGranting, hprop]
  refine ⟨p.data, (origin.object.editAll edits).map k, ?_, ?_, ?_⟩
  · rw [Object.data?, hprop, hp, Option.map_some]
  · rw [hshow, PropertyMap.decode_encode]
  · intro hm hf
    obtain ⟨refusal, hx⟩ := k.exchange
    rw [← hm] at hx
    rw [ha.succeeds_iff hl hx]
    refine forall₂_congr fun e he => ?_
    rw [hm, Object.not_refuses_iff he hf, hgrant]

theorem NodeObjects.handle_advertised_level :
    ∃ data map, ((Object.device ⟨0x02, 0x90, 0x01⟩).editAll
        [.add 0xB0 .write, .setData 0xB0 [0x32]]).data? Epc.setMap = some data ∧
      PropertyMap.decode data = .ok map ∧ map.contains 0xB0 = true := by
  generalize hedits : [Object.Edit.add 0xB0 .write, .setData 0xB0 [0x32]] = edits
  generalize hlamp : (Object.device ⟨0x02, 0x90, 0x01⟩).editAll edits = lamp
  have hcode : lamp.code = ⟨0x02, 0x90, 0x01⟩ := by subst hedits hlamp; decide +kernel
  have hd : lamp.data? 0xB0 = some [0x32] := by subst hedits hlamp; decide +kernel
  have hw : ∀ k : MapKind, ∀ e ∈ edits, ¬ e.Writes k.epc := by
    intro k e he
    subst hedits
    rcases List.mem_pair.mp he with rfl | rfl
    · intro h
      cases h
    · intro h
      generalize hk : k.epc = c at h
      cases h
      cases k <;> exact absurd hk (by decide)
  let request : Message :=
    { seoj := .controller, deoj := ⟨0x02, 0x90, 0x01⟩, esv := .setC, entries := [⟨0xB0, [0x4B]⟩] }
  have ha := @Addressed.device request.deoj [] [] [] { object := lamp } (List.forall_mem_nil _)
    hcode
  have hf : lamp.FitsStored request.entries := by
    intro e he p hp
    obtain rfl := List.mem_singleton.mp he
    rw [Object.data?, hp] at hd
    exact .inr (congrArg List.length (Option.some.inj hd)).symm
  have hanswer : ∃ a, (NodeObjects.handle { profiles := [], devices := [{ object := lamp }] }
      request {}).answer = some a ∧ a.esv = .setRes := by
    subst hedits hlamp
    exact Option.map_eq_some_iff.mp (by decide +kernel)
  have hb : ∀ code, Object.Origin.device ⟨0x02, 0x90, 0x01⟩ ≠ .bare code := by
    intro code h
    cases h
  obtain ⟨data, map, hdata, hm, hr⟩ := handle_advertised _ request {} _ _
    (.device ⟨0x02, 0x90, 0x01⟩) edits ha rfl hb hw
    (by rw [Object.Origin.object, hlamp]) .writable
  exact ⟨data, map, hdata, hm, (hr rfl fun _ => hf).mp hanswer _ List.mem_cons_self⟩

end EchonetLite

import EchonetLite.Proofs.Frame.RoundTrip
import EchonetLite.Proofs.Object.Maps

/-! The data that an object holds fits the entries of a message: whatever the object makes up by
itself is short, and its owner can keep to the limit. -/

namespace EchonetLite

lemma InstanceList.length_encode_le (codes : List ObjectCode) :
    (encode codes).length ≤ Frame.byteLimit :=
  Nat.le_trans (codeRow.length_encode_le codes) (by decide)

lemma ClassList.length_encode_le (classes : List ClassCode) :
    (encode classes).length ≤ Frame.byteLimit :=
  Nat.le_trans (codeRow.length_encode_le classes) (by decide)

lemma PropertyMap.length_encode_le (map : PropertyMap) : map.encode.length ≤ Frame.byteLimit := by
  rw [encode_eq, List.length_cons]
  split
  case isTrue hs =>
    rw [longestList, size] at hs
    rw [Frame.byteLimit]
    omega
  case isFalse =>
    rw [List.length_map, List.length_range]
    decide

namespace Property

lemma length_integerBytes_le (value : UInt32) (size : Nat) :
    (integerBytes value size).length ≤ Frame.byteLimit := by
  rw [length_integerBytes, Frame.byteLimit]
  omega

end Property

namespace Object

lemma length_identification (manufacturer : UInt32) (serial : Serial) :
    (identification manufacturer serial).length = 17 := by
  rw [identification, List.length_cons, List.length_append, Property.length_integerBytes,
    Vector.length_toList]
  rfl

def Fits (o : Object) : Prop := ∀ p ∈ o.properties.toList, p.data.length ≤ Frame.byteLimit

def Edit.Fits : Edit → Prop
  | .addWithData _ _ data => data.length ≤ Frame.byteLimit
  | .setData _ data => data.length ≤ Frame.byteLimit
  | _ => True

variable {o : Object} {epc : UInt8} {data : Bytes}

lemma fits_bare (code : ObjectCode) : (bare code).Fits := nofun

lemma Fits.place (h : o.Fits) (epc : UInt8) (access : Access)
    (hd : data.length ≤ Frame.byteLimit) : (o.place epc access data).Fits := by
  intro p hp
  rcases PropertyTable.mem_insertInto hp with rfl | hp
  · exact hd
  · exact h p hp

lemma Fits.setAccess (h : o.Fits) (epc : UInt8) (access : Access) :
    Fits { o with properties := o.properties.setAccess epc access } := by
  intro p hp
  obtain ⟨q, hq, rfl⟩ := List.mem_map.mp hp
  have hl := h q hq
  split <;> exact hl

lemma Fits.storeAll (h : o.Fits) {es : List Entry} (he : ∀ e ∈ es, e.Fits) :
    (o.storeAll es).Fits := by
  rw [storeAll_eq]
  intro p hp
  obtain ⟨q, hq, rfl⟩ := List.mem_map.mp hp
  dsimp only
  cases hl : Entry.lastData? es q.epc with
  | none => exact h q hq
  | some data =>
    obtain ⟨e, hm, _, rfl⟩ := Entry.exists_of_lastData? hl
    exact he e hm

lemma Fits.store (h : o.Fits) (epc : UInt8) (hd : data.length ≤ Frame.byteLimit) :
    (o.store epc data).Fits := by
  have he : ∀ e ∈ [Entry.mk epc data], e.Fits := List.forall_mem_singleton.mpr hd
  exact h.storeAll he

lemma Fits.withMaps (h : o.Fits) (map : MapKind → PropertyMap) : (o.withMaps map).Fits := h

lemma Fits.refreshMaps (h : o.Fits) : o.refreshMaps.Fits := by
  have he : ∀ e ∈ o.mapEntries, e.Fits := by
    simp only [mapEntries, List.forall_mem_cons, Entry.Fits, Entry.pdc]
    exact ⟨PropertyMap.length_encode_le _, PropertyMap.length_encode_le _,
      PropertyMap.length_encode_le _, List.forall_mem_nil _⟩
  rw [refreshMaps_eq]
  exact (h.storeAll he).withMaps _

lemma Fits.describeDevices (h : o.Fits) (devices : List ObjectCode) :
    (o.describeDevices devices).Fits := by
  have he : ∀ e ∈ deviceEntries devices, e.Fits := by
    simp only [deviceEntries, List.forall_mem_cons, Entry.Fits, Entry.pdc]
    exact ⟨Property.length_integerBytes_le _ _, Property.length_integerBytes_le _ _,
      InstanceList.length_encode_le _, InstanceList.length_encode_le _,
      ClassList.length_encode_le _, List.forall_mem_nil _⟩
  rw [describeDevices_eq]
  exact h.storeAll he

lemma Fits.setManufacturer (h : o.Fits) (code : UInt32) : (o.setManufacturer code).Fits :=
  h.store Epc.manufacturer (Property.length_integerBytes_le code 3)

lemma Fits.identified (h : o.Fits) (manufacturer : UInt32) (serial : Serial) :
    (o.store Epc.identification (identification manufacturer serial)).Fits :=
  h.store Epc.identification (by rw [length_identification]; decide)

lemma fits_basic (code : ObjectCode) : (basic code).Fits := by
  have hs : (bare code |>.place Epc.operationStatus .readAnnounce [statusOn]).Fits :=
    (fits_bare code).place _ _ (by decide)
  have hm := hs.place Epc.manufacturer .read
    (Property.length_integerBytes_le experimentalManufacturer 3)
  have he : ([] : Bytes).length ≤ Frame.byteLimit := Nat.zero_le _
  exact (((hm.place _ _ he).place _ _ he).place _ _ he).refreshMaps

lemma fits_device (code : ObjectCode) : (device code).Fits := by
  have hl := (fits_basic code).place Epc.installationLocation .readWriteAnnounce
    (show [locationUnspecified].length ≤ Frame.byteLimit by decide)
  have hv := hl.place Epc.standardVersion .read
    (show deviceVersion.length ≤ Frame.byteLimit by decide)
  exact (hv.place Epc.faultStatus .readAnnounce
    (show [noFault].length ≤ Frame.byteLimit by decide)).refreshMaps

lemma fits_profile (classCode instanceCode : UInt8) : (profile classCode instanceCode).Fits :=
  ((fits_basic _).place Epc.faultStatus .read
    (show [noFault].length ≤ Frame.byteLimit by decide)).refreshMaps

lemma fits_nodeProfile (manufacturer : UInt32) (sendOnly : Bool) (serial : Serial) :
    (nodeProfile manufacturer sendOnly serial).Fits := by
  have he : ([] : Bytes).length ≤ Frame.byteLimit := Nat.zero_le _
  have hp := (fits_profile (nodeProfileCode sendOnly).classCode
    (nodeProfileCode sendOnly).instanceCode).setManufacturer manufacturer
  have hv := hp.place Epc.standardVersion .read
    (show profileVersion.length ≤ Frame.byteLimit by decide)
  have hi := hv.place Epc.identification .read
    (show (identification manufacturer serial).length ≤ Frame.byteLimit by
      rw [length_identification]
      decide)
  exact (((((hi.place _ _ he).place _ _ he).place _ _ he).place _ _ he).place _ _
    he).refreshMaps.describeDevices []

lemma fits_plainObject (code : ObjectCode) : (Database.plainObject code).Fits := by
  rw [Database.plainObject]
  split
  · exact fits_profile _ _
  · exact fits_device code

lemma Fits.add {access : Access} (h : o.Fits) (hd : data.length ≤ Frame.byteLimit) :
    (o.add epc access data).2.Fits := by
  rw [Object.add]
  split
  · exact h
  · exact (h.place epc access hd).refreshMaps

lemma Fits.setData (h : o.Fits) (hd : data.length ≤ Frame.byteLimit) :
    (o.setData epc data).2.Fits := by
  rw [Object.setData]
  split
  · exact h
  · exact h.store epc hd

lemma Fits.edit {e : Edit} (h : o.Fits) (he : e.Fits) : (o.edit e).Fits := by
  cases e with
  | add epc access => exact Fits.add h (Nat.zero_le _)
  | addWithData epc access data => exact Fits.add h he
  | setAccess epc access =>
    rw [Object.edit, perform, Object.setAccess]
    split
    · exact h
    · exact (Fits.setAccess h epc access).refreshMaps
  | setData epc data => exact Fits.setData h he
  | setInteger epc value size => exact Fits.setData h (Property.length_integerBytes_le value size)
  | setManufacturer code => exact h.setManufacturer code

lemma Fits.editAll (h : o.Fits) {es : List Edit} (he : ∀ e ∈ es, e.Fits) : (o.editAll es).Fits :=
  editAll_preserves (fun e hm _ ho => ho.edit (he e hm)) h

lemma fits_createObject (db : Database) (code : ObjectCode) : (db.createObject code).Fits := by
  obtain ⟨es, ha, he⟩ := createObject_eq db code
  rw [he]
  apply (fits_plainObject code).editAll
  intro e hm
  obtain ⟨epc, access, rfl⟩ := ha e hm
  trivial

lemma Origin.fits (origin : Origin) : origin.object.Fits := by
  cases origin with
  | bare code => exact fits_bare code
  | basic code => exact fits_basic code
  | device code => exact fits_device code
  | profile classCode instanceCode => exact fits_profile classCode instanceCode
  | nodeProfile manufacturer sendOnly serial => exact fits_nodeProfile manufacturer sendOnly serial
  | template db code => exact fits_createObject db code

end Object

end EchonetLite

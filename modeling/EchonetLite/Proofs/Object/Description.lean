import EchonetLite.Object.NodeProfile
import EchonetLite.Proofs.Object.CodeLists
import EchonetLite.Proofs.Object.Writes
import EchonetLite.Proofs.Property.Integers

/-! What a node profile says about the devices of its node. The counts are exact, since there are
too few codes to outgrow them, and the lists hold the first of what there is to list. -/

namespace EchonetLite.Object

def deviceEntries (devices : List ObjectCode) : List Entry :=
  [⟨Epc.instanceCount, Property.integerBytes (UInt32.ofNat devices.length) 3⟩,
    ⟨Epc.classCount,
      Property.integerBytes (UInt32.ofNat ((ClassList.ofObjects devices).length + 1)) 2⟩,
    ⟨Epc.announcedInstances, InstanceList.encode devices⟩,
    ⟨Epc.instanceList, InstanceList.encode devices⟩,
    ⟨Epc.classList, ClassList.encode (ClassList.ofObjects devices)⟩]

def deviceEpcs : List UInt8 :=
  [Epc.instanceCount, Epc.classCount, Epc.announcedInstances, Epc.instanceList, Epc.classList]

structure Describes (o : Object) (devices : List ObjectCode) : Prop where
  count : ∀ p, o.property? Epc.instanceCount = some p →
    p.size = 3 ∧ p.integer.toNat = devices.length
  lists : ∀ epc p, epc = Epc.announcedInstances ∨ epc = Epc.instanceList →
    o.property? epc = some p →
      p.data = InstanceList.encode (devices.take 84) ∧ InstanceList.decode p.data = devices.take 84
  classes : ∃ classes : List ClassCode, classes.Pairwise (·.value < ·.value) ∧
    (∀ c, c ∈ classes ↔ ∃ code ∈ devices, code.objectClass = c) ∧
    (∀ p, o.property? Epc.classCount = some p →
      p.size = 2 ∧ p.integer.toNat = classes.length + 1) ∧
    ∀ p, o.property? Epc.classList = some p →
      p.data = ClassList.encode (classes.take 8) ∧ ClassList.decode p.data = classes.take 8

variable {o : Object} {devices : List ObjectCode}

lemma describeDevices_eq (o : Object) (devices : List ObjectCode) :
    o.describeDevices devices = o.storeAll (deviceEntries devices) := by
  simp only [describeDevices, storeAll, deviceEntries, List.foldl_cons, List.foldl_nil]

lemma map_epc_deviceEntries (devices : List ObjectCode) :
    (deviceEntries devices).map Entry.epc = deviceEpcs := rfl

lemma data_describeDevices {p : Property} {e : Entry} (he : e ∈ deviceEntries devices)
    (hp : (o.describeDevices devices).property? e.epc = some p) : p.data = e.edt := by
  have hn : ((deviceEntries devices).map Entry.epc).Nodup := by
    rw [map_epc_deviceEntries]
    decide
  rw [describeDevices_eq, property?_storeAll, Entry.lastData?_of_mem hn he] at hp
  obtain ⟨q, _, rfl⟩ := Option.map_eq_some_iff.mp hp
  rfl

lemma property?_describeDevices {epc : UInt8} (he : epc ∉ deviceEpcs) :
    (o.describeDevices devices).property? epc = o.property? epc := by
  have hn : ∀ e ∈ deviceEntries devices, e.epc ≠ epc := by
    intro e hm h
    rw [← map_epc_deviceEntries devices] at he
    exact he (List.mem_map.mpr ⟨e, hm, h⟩)
  rw [describeDevices_eq, property?_storeAll, Entry.lastData?_eq_none hn]
  exact Option.map_id'

lemma describes_describeDevices (o : Object) (hn : devices.Nodup)
    (hd : ∀ c ∈ devices, c.isProfile = false) : (o.describeDevices devices).Describes devices where
  count p hp := by
    have hdata := data_describeDevices (e := ⟨Epc.instanceCount, _⟩) List.mem_cons_self hp
    exact Property.toNat_integer_of_lt (Nat.le_refl 3) hdata
      (ObjectCode.length_lt_of_devices hn hd)
  lists epc p he hp := by
    have hm : (⟨epc, InstanceList.encode devices⟩ : Entry) ∈ deviceEntries devices := by
      rcases he with rfl | rfl <;> simp [deviceEntries]
    rw [data_describeDevices hm hp]
    exact ⟨(InstanceList.encode_take devices).symm, InstanceList.decode_encode devices⟩
  classes := by
    refine ⟨ClassList.ofObjects devices, ClassList.ofObjects_ascending devices, ?_, ?_, ?_⟩
    · intro c
      rw [ClassList.mem_ofObjects, List.mem_map]
    · intro p hp
      have hm : (⟨Epc.classCount, _⟩ : Entry) ∈ deviceEntries devices :=
        List.mem_cons_of_mem _ List.mem_cons_self
      exact Property.toNat_integer_of_lt (by decide) (data_describeDevices hm hp)
        (ClassList.length_ofObjects_lt hd)
    · intro p hp
      have hm : (⟨Epc.classList, ClassList.encode (ClassList.ofObjects devices)⟩ : Entry) ∈
          deviceEntries devices := by
        simp [deviceEntries]
      rw [data_describeDevices hm hp]
      exact ⟨(ClassList.encode_take _).symm, ClassList.decode_encode _⟩

end EchonetLite.Object

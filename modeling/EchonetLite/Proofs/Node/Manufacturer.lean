import EchonetLite.Proofs.Node.Additions
import EchonetLite.Proofs.Object.Contents

/-! Which manufacturer code the objects of a node report. A node gives the code that it is handed to
the objects that it has, but an object that joins later gets the code of the settings, and a node
profile that joins later keeps the identification number that it comes with. -/

namespace EchonetLite

namespace Object

variable {o : Object} {epc c : UInt8} {data : Bytes}

lemma data?_describeDevices {devices : List ObjectCode} (h : c ∉ deviceEpcs) :
    (o.describeDevices devices).data? c = o.data? c := by
  rw [data?, data?, property?_describeDevices h]

lemma exists_manufacturer {code : UInt32}
    (h : o.data? Epc.manufacturer = some (Property.integerBytes code 3)) :
    ∃ reported, o.manufacturer? = some reported ∧ reported.toNat = code.toNat % 2 ^ 24 := by
  obtain ⟨p, hp, hd⟩ := Option.map_eq_some_iff.mp h
  exact ⟨p.integer, congrArg (Option.map Property.integer) hp, Property.toNat_integer hd⟩

lemma take_identification (code : UInt32) (serial : Serial) :
    ((identification code serial).drop 1).take 3 = Property.integerBytes code 3 :=
  List.take_left' (Property.length_integerBytes code 3)

lemma manufacturer_nodeProfile {manufacturer : UInt32} {sendOnly : Bool} {serial : Serial}
    (h : (nodeProfile manufacturer sendOnly serial).data? Epc.manufacturer = some data) :
    data = Property.integerBytes manufacturer 3 := by
  have hm : ∀ k : MapKind, k.epc ≠ Epc.manufacturer := by
    intro k
    cases k <;> decide
  rw [nodeProfile, data?_describeDevices (by decide), data?_refreshMaps hm] at h
  iterate 7 rw [data?_place, if_neg (by decide)] at h
  rw [setManufacturer, data?_store, if_pos rfl] at h
  obtain ⟨_, _, rfl⟩ := Option.map_eq_some_iff.mp h
  rfl

lemma identification_nodeProfile (manufacturer : UInt32) (sendOnly : Bool) (serial : Serial) :
    (nodeProfile manufacturer sendOnly serial).data? Epc.identification =
      some (identification manufacturer serial) := by
  have hi : ∀ k : MapKind, k.epc ≠ Epc.identification := by
    intro k
    cases k <;> decide
  rw [nodeProfile, data?_describeDevices (by decide), data?_refreshMaps hi]
  iterate 5 rw [data?_place, if_neg (by decide)]
  rw [data?_place, if_pos rfl]

end Object

structure Label where
  code : ObjectCode
  manufacturer : Option Bytes
  identification : Option Bytes

namespace Label

def stamp (l : Label) (code : UInt32) : Label :=
  { l with manufacturer := l.manufacturer.map fun _ => Property.integerBytes code 3 }

def identify (l : Label) (data : Bytes) : Label :=
  { l with identification := l.identification.map fun _ => data }

lemma of_stamp {l : Label} {code : UInt32} {data : Bytes}
    (h : (l.stamp code).manufacturer = some data) : data = Property.integerBytes code 3 := by
  obtain ⟨_, _, rfl⟩ := Option.map_eq_some_iff.mp h
  rfl

lemma of_identify {l : Label} {number data : Bytes}
    (h : (l.identify number).identification = some data) : data = number := by
  obtain ⟨_, _, rfl⟩ := Option.map_eq_some_iff.mp h
  rfl

structure Bears (l : Label) (code : UInt32) (nodeProfile : ObjectCode) : Prop where
  manufacturer : ∀ data, l.manufacturer = some data → data = Property.integerBytes code 3
  identification : l.code = nodeProfile → ∀ data, l.identification = some data →
    (data.drop 1).take 3 = Property.integerBytes code 3

end Label

namespace HostedObject

def label (h : HostedObject) : Label :=
  ⟨h.code, h.object.data? Epc.manufacturer, h.object.data? Epc.identification⟩

lemma label_setManufacturer (h : HostedObject) (code : UInt32) :
    label { h with object := h.object.setManufacturer code } = h.label.stamp code := by
  rw [label, Object.setManufacturer, Object.data?_store, Object.data?_store]
  rfl

lemma label_identify (h : HostedObject) (data : Bytes) :
    label { h with object := h.object.store Epc.identification data } = h.label.identify data := by
  rw [label, Object.data?_store, Object.data?_store]
  rfl

lemma label_adopt (n : LocalNode) (h : HostedObject) :
    (n.adopt h).label = h.label.stamp n.settings.manufacturer :=
  h.label_setManufacturer n.settings.manufacturer

lemma bears_of {o : Object} {code : UInt32} {c : ObjectCode}
    (hm : ∀ data, o.data? Epc.manufacturer = some data → data = Property.integerBytes code 3)
    (hi : ∀ data, o.data? Epc.identification = some data →
      (data.drop 1).take 3 = Property.integerBytes code 3) :
    (label { object := { o with attached := true } }).Bears code c :=
  ⟨hm, fun _ => hi⟩

lemma label_describeDevices (h : HostedObject) (devices : List ObjectCode) :
    label { h with object := h.object.describeDevices devices } = h.label := by
  have hm : Epc.manufacturer ∉ Object.deviceEpcs := by decide
  have hi : Epc.identification ∉ Object.deviceEpcs := by decide
  rw [label, Object.data?_describeDevices hm, Object.data?_describeDevices hi]
  rfl

end HostedObject

namespace NodeObjects

variable {n : NodeObjects} {h : HostedObject} {l : Label}

def labels (n : NodeObjects) : List Label := n.toList.map HostedObject.label

lemma mem_labels : l ∈ n.labels ↔ ∃ h ∈ n.toList, h.label = l := List.mem_map

lemma labels_refresh (n : NodeObjects) : n.refreshNodeProfile.labels = n.labels := by
  have hp : n.refreshNodeProfile.profiles.map HostedObject.label =
      n.profiles.map HostedObject.label := by
    refine map_modifyFirst ?_ n.profiles
    intro h _
    exact h.label_describeDevices n.deviceCodes
  rw [labels, labels, toList, toList, List.map_append, List.map_append, hp]
  rfl

lemma mem_labels_of_joined {n' : NodeObjects}
    (hj : ∀ g, g ∈ n'.toList ↔ g = h ∨ g ∈ n.toList ∧ g.code ≠ h.code) :
    l ∈ n'.labels ↔ l = h.label ∨ l ∈ n.labels ∧ l.code ≠ h.code := by
  rw [mem_labels, mem_labels]
  constructor
  · rintro ⟨g, hg, rfl⟩
    rcases (hj g).mp hg with rfl | ⟨hm, hc⟩
    · exact .inl rfl
    · exact .inr ⟨⟨g, hm, rfl⟩, hc⟩
  · rintro (rfl | ⟨⟨g, hm, rfl⟩, hc⟩)
    · exact ⟨h, (hj h).mpr (.inl rfl), rfl⟩
    · exact ⟨g, (hj g).mpr (.inr ⟨hm, hc⟩), rfl⟩

end NodeObjects

namespace LocalNode

inductive Call where
  | add (a : Addition)
  | setManufacturer (code : UInt32) (serial : Serial)

def call (n : LocalNode) : Call → LocalNode
  | .add a => n.add a
  | .setManufacturer code serial => n.setManufacturer code serial

def callAll (n : LocalNode) (calls : List Call) : LocalNode := calls.foldl call n

def Call.codeAfter : UInt32 → Call → UInt32
  | code, .add _ => code
  | _, .setManufacturer code _ => code

def Call.given (configured : UInt32) (calls : List Call) : UInt32 :=
  calls.foldl codeAfter configured

def Call.joinedAfter (c : ObjectCode) : Option HostedObject → Call → Option HostedObject
  | joined, .add a => (a.object?.filter (·.code == c)).or joined
  | _, .setManufacturer _ _ => none

def Call.joined? (c : ObjectCode) (calls : List Call) : Option HostedObject :=
  calls.foldl (joinedAfter c) none

structure Reports (n : LocalNode) (code : UInt32) : Prop where
  manufacturer : ∀ h ∈ n.objects.toList, ∀ reported, h.object.manufacturer? = some reported →
    reported.toNat = code.toNat % 2 ^ 24
  identification : ∀ h, n.objects.nodeProfile? = some h →
    ∀ data, h.object.data? Epc.identification = some data →
      (data.drop 1).take 3 = Property.integerBytes code 3

structure Tracks (n : LocalNode) (calls : List Call) : Prop where
  sound : n.Sound
  settled : ∀ l ∈ n.objects.labels, Call.joined? l.code calls = none →
    l.Bears (Call.given n.settings.manufacturer calls) n.nodeProfileCode
  joined : ∀ c h, Call.joined? c calls = some h →
    h.code = c ∧ h.label.stamp n.settings.manufacturer ∈ n.objects.labels

variable {n : LocalNode} {a : Addition} {g h : HostedObject} {rest : List HostedObject} {l : Label}
  {calls : List Call}

lemma given_concat (configured : UInt32) (calls : List Call) (call : Call) :
    Call.given configured (calls ++ [call]) = Call.codeAfter (Call.given configured calls) call :=
  List.foldl_append

lemma joined?_concat (c : ObjectCode) (calls : List Call) (call : Call) :
    Call.joined? c (calls ++ [call]) = Call.joinedAfter c (Call.joined? c calls) call :=
  List.foldl_append

lemma callAll_concat (n : LocalNode) (calls : List Call) (call : Call) :
    n.callAll (calls ++ [call]) = (n.callAll calls).call call :=
  List.foldl_append

lemma callAll_invariant {P : LocalNode → List Call → Prop} (hn : P n [])
    (hadd : ∀ {n calls}, P n calls → ∀ a, P (n.add a) (calls ++ [.add a]))
    (hset : ∀ {n calls}, P n calls → ∀ code serial,
      P (n.setManufacturer code serial) (calls ++ [.setManufacturer code serial]))
    (calls : List Call) : P (n.callAll calls) calls := by
  induction calls using List.reverseRecOn with
  | nil => exact hn
  | append_singleton calls call ih =>
    rw [callAll_concat]
    cases call with
    | add a => exact hadd ih a
    | setManufacturer code serial => exact hset ih code serial

lemma add_of_refused (ho : a.object? = none) : n.add a = n := by
  have ha := n.added a
  rw [add]
  generalize n.add? a = r at ha
  cases ha with
  | device hs => rw [ho] at hs; cases hs
  | profile hs => rw [ho] at hs; cases hs
  | refused => rfl

lemma profiles_setManufacturer (hp : n.objects.profiles = h :: rest)
    (hc : h.code.isNodeProfile = true) (code : UInt32) (serial : Serial) :
    (n.setManufacturer code serial).objects.profiles =
      { h with
        object := (h.object.setManufacturer code).store Epc.identification
          (Object.identification code serial) } ::
        rest.map fun g => { g with object := g.object.setManufacturer code } := by
  have hc' : (h.object.setManufacturer code).code.isNodeProfile = true := hc
  simp only [setManufacturer, NodeObjects.modifyNodeProfile, NodeObjects.map, hp, List.map_cons,
    NodeObjects.modifyFirst, hc', if_true]

lemma labels_setManufacturer (hp : n.objects.profiles = h :: rest)
    (hc : h.code.isNodeProfile = true) (code : UInt32) (serial : Serial) :
    (n.setManufacturer code serial).objects.labels =
      (h.label.stamp code).identify (Object.identification code serial) ::
        (rest ++ n.objects.devices).map fun g => g.label.stamp code := by
  have hd : (n.setManufacturer code serial).objects.devices =
      n.objects.devices.map fun g => { g with object := g.object.setManufacturer code } := rfl
  rw [NodeObjects.labels, NodeObjects.toList, profiles_setManufacturer hp hc, hd, List.cons_append,
    List.map_cons, ← List.map_append, List.map_map]
  refine congrArg₂ List.cons ?_ (List.map_congr_left fun g _ => g.label_setManufacturer code)
  rw [← HostedObject.label_setManufacturer]
  exact HostedObject.label_identify { h with object := h.object.setManufacturer code } _

lemma mem_labels_add (hn : n.Sound) (ho : a.object? = some h) : l ∈ (n.add a).objects.labels ↔
    l = h.label.stamp n.settings.manufacturer ∨ l ∈ n.objects.labels ∧ l.code ≠ h.code := by
  have ha := n.added a
  rw [← HostedObject.label_adopt]
  rw [add]
  generalize n.add? a = r at ha
  cases ha with
  | @device g hs hd =>
    obtain rfl := Option.some.inj (ho.symm.trans hs)
    dsimp only
    rw [NodeObjects.labels_refresh]
    exact NodeObjects.mem_labels_of_joined fun g => hn.mem_addDevice hd
  | @profile g hs hp =>
    obtain rfl := Option.some.inj (ho.symm.trans hs)
    dsimp only
    rw [NodeObjects.labels_refresh]
    exact NodeObjects.mem_labels_of_joined fun g => hn.mem_addProfile hp
  | refused hr => rw [ho] at hr; cases hr

lemma Tracks.add (ht : n.Tracks calls) (a : Addition) : (n.add a).Tracks (calls ++ [.add a]) := by
  cases ho : a.object? with
  | none =>
    have hj : ∀ c, Call.joined? c (calls ++ [.add a]) = Call.joined? c calls := by
      intro c
      rw [joined?_concat, Call.joinedAfter, ho]
      rfl
    rw [add_of_refused ho]
    refine ⟨ht.sound, ?_, ?_⟩
    · intro l hl hn
      rw [hj] at hn
      rw [given_concat]
      exact ht.settled l hl hn
    · intro c h hh
      rw [hj] at hh
      exact ht.joined c h hh
  | some h =>
    have hj : ∀ c, Call.joined? c (calls ++ [.add a]) =
        if h.code = c then some h else Call.joined? c calls := by
      intro c
      rw [joined?_concat, Call.joinedAfter, ho, Option.filter_some]
      by_cases hc : h.code = c <;> simp [hc]
    refine ⟨ht.sound.add a, ?_, ?_⟩
    · intro l hl hn
      rw [hj] at hn
      rw [given_concat, nodeProfileCode, settings_add]
      rcases (mem_labels_add ht.sound ho).mp hl with rfl | ⟨hm, hc⟩
      · have hc : h.code = (h.label.stamp n.settings.manufacturer).code := rfl
        rw [if_pos hc] at hn
        cases hn
      · rw [if_neg (Ne.symm hc)] at hn
        exact ht.settled l hm hn
    · intro c g hg
      rw [hj] at hg
      rw [settings_add, mem_labels_add ht.sound ho]
      split at hg
      case isTrue hc =>
        obtain rfl := Option.some.inj hg
        exact ⟨hc, .inl rfl⟩
      case isFalse hc =>
        obtain ⟨hgc, hm⟩ := ht.joined c g hg
        refine ⟨hgc, .inr ⟨hm, ?_⟩⟩
        exact fun he => hc (he.symm.trans hgc)

lemma sound_setManufacturer (hn : n.Sound) (code : UInt32) (serial : Serial) :
    (n.setManufacturer code serial).Sound := by
  refine hn.changed rfl ?_ ?_
  · exact List.map_map
  · obtain ⟨h, rest, hp, hc, _⟩ := hn.exists_first
    have hc' : h.code.isNodeProfile = true := hc ▸ isNodeProfile_nodeProfileCode n
    rw [NodeObjects.profileCodes, profiles_setManufacturer hp hc', NodeObjects.profileCodes, hp,
      List.map_cons, List.map_map]
    rfl

lemma Tracks.setManufacturer (ht : n.Tracks calls) (code : UInt32) (serial : Serial) :
    (n.setManufacturer code serial).Tracks (calls ++ [.setManufacturer code serial]) where
  sound := sound_setManufacturer ht.sound code serial
  settled l hl _ := by
    rw [given_concat]
    obtain ⟨h, rest, hp, hc, _⟩ := ht.sound.exists_first
    have hn := ht.sound.nodup
    rw [NodeObjects.toList, hp, List.cons_append, List.map_cons] at hn
    rw [labels_setManufacturer hp (hc ▸ isNodeProfile_nodeProfileCode n)] at hl
    rcases List.mem_cons.mp hl with rfl | hl
    · refine ⟨fun data => Label.of_stamp, fun _ data hd => ?_⟩
      rw [Label.of_identify hd]
      exact Object.take_identification code serial
    · obtain ⟨g, hg, rfl⟩ := List.mem_map.mp hl
      refine ⟨fun data => Label.of_stamp, fun hgc => ?_⟩
      have hh : g.code = h.code := hgc.trans hc.symm
      exact absurd (hh ▸ List.mem_map_of_mem hg) (List.nodup_cons.mp hn).1
  joined c h hh := by
    rw [joined?_concat] at hh
    cases hh

lemma tracks_new (settings : NodeSettings) (serial : Serial) (firstTid : UInt16) :
    (new settings serial firstTid).Tracks [] where
  sound := sound_new settings serial firstTid
  settled l hl _ := by
    obtain rfl := List.mem_singleton.mp hl
    refine HostedObject.bears_of (fun data hd => Object.manufacturer_nodeProfile hd) ?_
    intro data hd
    rw [Object.identification_nodeProfile] at hd
    rw [← Option.some.inj hd]
    exact Object.take_identification settings.manufacturer serial
  joined c h hh := by cases hh

lemma tracks_callAll (settings : NodeSettings) (serial : Serial) (firstTid : UInt16)
    (calls : List Call) :
    ((new settings serial firstTid).callAll calls).Tracks calls :=
  callAll_invariant (tracks_new settings serial firstTid) (fun ht a => ht.add a)
    (fun ht code serial => ht.setManufacturer code serial) calls

lemma settings_callAll (n : LocalNode) (calls : List Call) :
    (n.callAll calls).settings = n.settings :=
  callAll_invariant (P := fun n' _ => n'.settings = n.settings) rfl
    (fun hs a => (settings_add _ a).trans hs) (fun hs _ _ => hs) calls

lemma Tracks.label_eq (ht : n.Tracks calls) (hg : g ∈ n.objects.toList)
    (hj : Call.joined? g.code calls = some h) :
    g.label = h.label.stamp n.settings.manufacturer := by
  obtain ⟨hc, hm⟩ := ht.joined g.code h hj
  obtain ⟨g', hg', hl⟩ := NodeObjects.mem_labels.mp hm
  have hgc : g'.code = g.code := (congrArg Label.code hl).trans hc
  rw [← List.inj_on_of_nodup_map ht.sound.nodup hg' hg hgc, hl]

lemma Tracks.exists_label_eq (ht : n.Tracks calls) {c : ObjectCode}
    (hj : Call.joined? c calls = some h) : ∃ g ∈ n.objects.toList, g.code = c ∧
      g.label = h.label.stamp n.settings.manufacturer := by
  obtain ⟨hc, hm⟩ := ht.joined c h hj
  obtain ⟨g, hg, hl⟩ := NodeObjects.mem_labels.mp hm
  exact ⟨g, hg, (congrArg Label.code hl).trans hc, hl⟩

/-- The objects of a node report the manufacturer code that was given last exactly if every object
with a manufacturer code that joined since was right to take the configured one, and a node profile
that joined since came with an identification number for the code that was given. -/
theorem reports_given_iff (settings : NodeSettings) (serial : Serial) (firstTid : UInt16)
    (calls : List Call) :
    ((new settings serial firstTid).callAll calls).Reports
        (Call.given settings.manufacturer calls) ↔
      (∀ c h data, Call.joined? c calls = some h → h.object.data? Epc.manufacturer = some data →
        settings.manufacturer.toNat % 2 ^ 24 =
          (Call.given settings.manufacturer calls).toNat % 2 ^ 24) ∧
      ∀ h data, Call.joined? (Object.nodeProfileCode settings.sendOnly) calls = some h →
        h.object.data? Epc.identification = some data →
          (data.drop 1).take 3 =
            Property.integerBytes (Call.given settings.manufacturer calls) 3 := by
  have ht := tracks_callAll settings serial firstTid calls
  have hs : ((new settings serial firstTid).callAll calls).settings = settings :=
    settings_callAll _ calls
  generalize (new settings serial firstTid).callAll calls = n at ht hs
  subst hs
  obtain ⟨first, rest, hp, hfc, hfirst⟩ := ht.sound.exists_first
  have hc : first.code = Object.nodeProfileCode n.settings.sendOnly := hfc
  have hm : first ∈ n.objects.toList := by rw [NodeObjects.toList, hp]; exact List.mem_cons_self
  constructor
  · intro hr
    constructor
    · intro c h data hj hd
      obtain ⟨g, hg, _, hl⟩ := ht.exists_label_eq hj
      have hgd : g.object.data? Epc.manufacturer =
          some (Property.integerBytes n.settings.manufacturer 3) :=
        (congrArg Label.manufacturer hl).trans (congrArg (Option.map _) hd)
      obtain ⟨reported, hrep, hn⟩ := Object.exists_manufacturer hgd
      rw [← hn]
      exact hr.manufacturer g hg reported hrep
    · intro h data hj hd
      rw [← hc] at hj
      have hl := ht.label_eq hm hj
      exact hr.identification first hfirst data ((congrArg Label.identification hl).trans hd)
  · rintro ⟨hcode, hid⟩
    constructor
    · intro g hg reported hrep
      obtain ⟨p, hprop, rfl⟩ := Option.map_eq_some_iff.mp hrep
      have hd : g.object.data? Epc.manufacturer = some p.data := congrArg (Option.map _) hprop
      cases hj : Call.joined? g.code calls with
      | none =>
        have hb := ht.settled g.label (NodeObjects.mem_labels.mpr ⟨g, hg, rfl⟩) hj
        exact Property.toNat_integer (hb.manufacturer p.data hd)
      | some h =>
        have hl : h.label.manufacturer.map (fun _ => _) = some p.data :=
          (congrArg Label.manufacturer (ht.label_eq hg hj)).symm.trans hd
        obtain ⟨data, hdata, hpd⟩ := Option.map_eq_some_iff.mp hl
        rw [← hcode g.code h data hj hdata]
        exact Property.toNat_integer hpd.symm
    · intro g hg data hd
      obtain rfl := Option.some.inj (hfirst.symm.trans hg)
      cases hj : Call.joined? first.code calls with
      | none =>
        have hb := ht.settled first.label (NodeObjects.mem_labels.mpr ⟨first, hm, rfl⟩) hj
        exact hb.identification hc data hd
      | some h =>
        have hl := congrArg Label.identification (ht.label_eq hm hj)
        rw [hc] at hj
        exact hid h data hj (hl.symm.trans hd)

theorem not_reports_given : ¬ ((new {} (.replicate 13 0) 0).callAll
    [.setManufacturer 5 (.replicate 13 0),
      .add (.device { object := .device ⟨0x02, 0x90, 0x01⟩ })]).Reports
    (Call.given 0xFFFFFF [.setManufacturer 5 (.replicate 13 0),
      .add (.device { object := .device ⟨0x02, 0x90, 0x01⟩ })]) := by
  intro hr
  have hl : (NodeObjects.toList (callAll (new {} (.replicate 13 0) 0)
      [.setManufacturer 5 (.replicate 13 0),
        .add (.device { object := .device ⟨0x02, 0x90, 0x01⟩ })]).objects).filterMap
      (·.object.manufacturer?) = [5, 0xFFFFFF] := by decide +kernel
  have hm : 0xFFFFFF ∈ [(5 : UInt32), 0xFFFFFF] := by decide
  rw [← hl] at hm
  obtain ⟨h, hh, hrep⟩ := List.mem_filterMap.mp hm
  exact absurd (hr.manufacturer h hh _ hrep) (by decide)

end LocalNode

end EchonetLite

import EchonetLite.Node.Controller
import EchonetLite.Proofs.Frame.Boundary
import EchonetLite.Proofs.Node.SelfDescription
import EchonetLite.Proofs.Object.Contents
import EchonetLite.Proofs.Object.Sizes

/-! How nodes learn of each other's devices. What a node says about its devices, unasked or in answer
to a search, makes whoever hears it set up the same devices in the same order. -/

namespace EchonetLite

namespace Object

variable {o : Object} {epc c : UInt8}

lemma access?_describeDevices (o : Object) (devices : List ObjectCode) :
    (o.describeDevices devices).access? c = o.access? c := by
  rw [describeDevices_eq, access?_storeAll]

lemma access?_nodeProfile (manufacturer : UInt32) (sendOnly : Bool) (serial : Serial) :
    (nodeProfile manufacturer sendOnly serial).access? Epc.announcedInstances = some .announce ∧
      (nodeProfile manufacturer sendOnly serial).access? Epc.instanceList = some .read := by
  have hc : Epc.classList ≠ Epc.announcedInstances := by decide
  have hi : Epc.instanceList ≠ Epc.announcedInstances := by decide
  have hc' : Epc.classList ≠ Epc.instanceList := by decide
  rw [nodeProfile, access?_describeDevices, access?_describeDevices, access?_refreshMaps,
    access?_refreshMaps]
  constructor
  · rw [access?_place, if_neg hc, access?_place, if_neg hi, access?_place, if_pos rfl]
  · rw [access?_place, if_neg hc', access?_place, if_pos rfl]

lemma data?_listed (he : epc = Epc.announcedInstances ∨ epc = Epc.instanceList) (o : Object)
    (devices : List ObjectCode) : (o.describeDevices devices).data? epc =
      (o.data? epc).map fun _ => InstanceList.encode devices := by
  have hm : (⟨epc, InstanceList.encode devices⟩ : Entry) ∈ deviceEntries devices := by
    rcases he with rfl | rfl <;> simp [deviceEntries]
  have hn : ((deviceEntries devices).map Entry.epc).Nodup := by
    rw [map_epc_deviceEntries]
    decide
  rw [data?, describeDevices_eq, property?_storeAll, Entry.lastData?_of_mem hn hm, data?,
    Option.map_map, Option.map_map]
  rfl

lemma data?_instances {access : Access} {devices : List ObjectCode}
    (he : epc = Epc.announcedInstances ∨ epc = Epc.instanceList)
    (ha : (o.describeDevices devices).access? epc = some access) :
    (o.describeDevices devices).data? epc = some (InstanceList.encode devices) := by
  rw [access?_describeDevices] at ha
  obtain ⟨p, hp, _⟩ := Option.map_eq_some_iff.mp ha
  rw [data?_listed he, data?, hp, Option.map_some, Option.map_some]

lemma data?_nodeProfile (manufacturer : UInt32) (sendOnly : Bool) (serial : Serial)
    (he : epc = Epc.announcedInstances ∨ epc = Epc.instanceList) :
    (nodeProfile manufacturer sendOnly serial).data? epc = some (InstanceList.encode []) := by
  obtain ⟨ha, hr⟩ := access?_nodeProfile manufacturer sendOnly serial
  rw [nodeProfile] at ha hr ⊢
  rcases he with rfl | rfl
  · exact data?_instances (.inl rfl) ha
  · exact data?_instances (.inr rfl) hr

end Object

namespace NodeObjects

variable {n : NodeObjects} {codes : List ObjectCode}

lemma codes_foldl_add (make : ObjectCode → HostedObject) (hm : ∀ c, (make c).code = c)
    (hd : ∀ c ∈ codes, c.isProfile = false) (hn : codes.Nodup) (h0 : n.deviceCodes = []) :
    (codes.foldl (fun n c => n.add (make c)) n).deviceCodes = codes ∧
      (codes.foldl (fun n c => n.add (make c)) n).profileCodes = n.profileCodes := by
  induction codes using List.reverseRecOn with
  | nil => exact ⟨h0, rfl⟩
  | append_singleton codes c ih =>
    obtain ⟨hn', _, hne⟩ := List.nodup_append.mp hn
    have hc : c ∉ codes := fun h => hne c h c List.mem_cons_self rfl
    obtain ⟨ihd, ihp⟩ := ih (fun d h => hd d (List.mem_append_left _ h)) hn'
    have hcd : (make c).code.isProfile = false := by
      rw [hm]
      exact hd c (by simp)
    rw [List.foldl_append, List.foldl_cons, List.foldl_nil, (deviceCodes_add hcd).1,
      (deviceCodes_add hcd).2, ihd, ihp, hm, ObjectCode.enrol, if_neg hc]
    exact ⟨rfl, rfl⟩

end NodeObjects

namespace RemoteNode

variable {m : Message} {codes : List ObjectCode}

def introduced (db : Database) (source : Endpoint) (profile : ObjectCode)
    (devices : List ObjectCode) : RemoteNode where
  endpoint := source
  objects := (profile :: devices).foldl
    (fun objects code => objects.add { object := db.createObject code }) {}

lemma codes_introduced {devices : List ObjectCode} {profile : ObjectCode} (db : Database)
    (source : Endpoint) (hp : profile.isProfile = true) (hd : ∀ c ∈ devices, c.isProfile = false)
    (hn : devices.Nodup) :
    (introduced db source profile devices).objects.deviceCodes = devices ∧
      (introduced db source profile devices).objects.profileCodes = [profile] := by
  have hm : ∀ c, HostedObject.code { object := db.createObject c } = c := db.code_createObject
  have hp' : HostedObject.code { object := db.createObject profile } = profile := hm profile
  obtain ⟨hpc, hdc⟩ := NodeObjects.profileCodes_add (n := {})
    (h := { object := db.createObject profile }) (hp'.symm ▸ hp)
  have hf := NodeObjects.codes_foldl_add (fun c => { object := db.createObject c }) hm hd hn hdc
  rw [introduced, List.foldl_cons]
  refine ⟨hf.1, hf.2.trans (hpc.trans ?_)⟩
  rw [hp']
  rfl

lemma ofMessage?_of_entries {epc : UInt8} (db : Database) (source : Endpoint)
    (hs : m.seoj.isNodeProfile = true) (hc : carriesInstances m.esv = true)
    (he : epc = Epc.instanceList ∨ epc = Epc.announcedInstances)
    (hm : m.entries = [⟨epc, InstanceList.encode codes⟩]) :
    ofMessage? source m db = some (introduced db source m.seoj (codes.take InstanceList.limit)) := by
  have hd : instanceData? m = some (InstanceList.encode codes) := by
    have hp : (0 : Nat) < Entry.pdc ⟨epc, InstanceList.encode codes⟩ := Nat.succ_pos _
    have hf : (m.entry? Epc.instanceList).or (m.entry? Epc.announcedInstances) =
        some ⟨epc, InstanceList.encode codes⟩ := by
      rw [Message.entry?, Message.entry?, hm]
      rcases he with rfl | rfl <;> rfl
    rw [instanceData?, hs, hc, hf, Option.filter_some, decide_eq_true hp]
    rfl
  rw [ofMessage?, hd, Option.map_some, InstanceList.decode_encode]
  rfl

end RemoteNode

namespace Message

lemma encode_of_entries {m : Message} {epc : UInt8} {codes : List ObjectCode}
    (hm : m.entries = [⟨epc, InstanceList.encode codes⟩]) :
    ∃ frame, m.encode = .ok frame ∧ Message.decode frame = .ok m := by
  have hf : m.Fits := by
    constructor
    · rw [opc, hm]
      exact Nat.succ_pos _
    · intro e he
      rw [hm] at he
      obtain rfl := List.mem_singleton.mp he
      exact InstanceList.length_encode_le codes
  exact ⟨m.wire, encode_eq_ok_iff.mpr ⟨hf, rfl⟩, decode_wire hf⟩

end Message

namespace LocalNode

variable {n : LocalNode} {h : HostedObject}

structure Presented (n : LocalNode) (h : HostedObject) : Prop where
  alone : n.objects.profiles = [h]
  code : h.code = n.nodeProfileCode
  listener : h.listener = none
  announced : h.object.access? Epc.announcedInstances = some .announce
  readable : h.object.access? Epc.instanceList = some .read
  data : ∀ epc, epc = Epc.announcedInstances ∨ epc = Epc.instanceList →
    h.object.data? epc = some (InstanceList.encode n.objects.deviceCodes)

lemma presented_new (settings : NodeSettings) (serial : Serial) (firstTid : UInt16) :
    ∃ h, (new settings serial firstTid).Presented h := by
  obtain ⟨ha, hr⟩ := Object.access?_nodeProfile settings.manufacturer settings.sendOnly serial
  have hc := Object.code_nodeProfile settings.manufacturer settings.sendOnly serial
  have hd := fun epc he =>
    @Object.data?_nodeProfile epc settings.manufacturer settings.sendOnly serial he
  simp only [new]
  generalize Object.nodeProfile settings.manufacturer settings.sendOnly serial = o at ha hr hc hd
  exact ⟨{ object := { o with attached := true } }, rfl, hc, rfl, ha, hr, hd⟩

lemma Presented.refresh (hn : n.Presented h) (devices : List HostedObject) :
    Presented { n with objects := { n.objects with devices }.refreshNodeProfile }
      { h with object := h.object.describeDevices (devices.map (·.code)) } where
  alone := by
    have hc : h.code.isNodeProfile = true := hn.code ▸ isNodeProfile_nodeProfileCode n
    simp only [NodeObjects.refreshNodeProfile, NodeObjects.modifyNodeProfile, hn.alone,
      NodeObjects.modifyFirst, hc, if_true, NodeObjects.deviceCodes]
  code := hn.code
  listener := hn.listener
  announced := (Object.access?_describeDevices _ _).trans hn.announced
  readable := (Object.access?_describeDevices _ _).trans hn.readable
  data epc he := by
    rcases he with rfl | rfl
    · exact Object.data?_instances (.inl rfl)
        ((Object.access?_describeDevices _ _).trans hn.announced)
    · exact Object.data?_instances (.inr rfl)
        ((Object.access?_describeDevices _ _).trans hn.readable)

lemma Presented.add (hn : n.Presented h) (g : HostedObject) :
    ∃ h', (n.add (.device g)).Presented h' := by
  rw [LocalNode.add, add?, addDevice]
  split
  case h_1 n' he =>
    split at he
    case isTrue => cases he
    case isFalse =>
      obtain rfl := Except.ok.inj he
      exact ⟨_, hn.refresh _⟩
  case h_2 => exact ⟨h, hn⟩

lemma Presented.addAll (hn : n.Presented h) (devices : List HostedObject) :
    ∃ h', (n.addAll (devices.map .device)).Presented h' := by
  induction devices generalizing n h with
  | nil => exact ⟨h, hn⟩
  | cons g devices ih =>
    obtain ⟨h', hn'⟩ := hn.add g
    exact ih hn'

lemma settings_addAll (n : LocalNode) (devices : List HostedObject) :
    (n.addAll (devices.map .device)).settings = n.settings := by
  induction devices generalizing n with
  | nil => rfl
  | cons g devices ih =>
    rw [List.map_cons, LocalNode.addAll, List.foldl_cons]
    exact (ih (n.add (.device g))).trans (settings_add n (.device g))

lemma Presented.notification (hn : n.Presented h) :
    n.instanceListNotification.1.seoj = n.nodeProfileCode ∧
      n.instanceListNotification.1.esv = .inf ∧
      n.instanceListNotification.1.entries =
        [⟨Epc.announcedInstances, InstanceList.encode n.objects.deviceCodes⟩] := by
  have hc : h.code.isNodeProfile = true := hn.code ▸ isNodeProfile_nodeProfileCode n
  have hp : n.objects.nodeProfile? = some h := NodeObjects.nodeProfile?_of_first hn.alone hc
  have hd : (n.objects.nodeProfile?.bind (·.object.data? Epc.announcedInstances)).getD [] =
      InstanceList.encode n.objects.deviceCodes := by
    rw [hp, Option.bind_some, hn.data _ (.inl rfl), Option.getD_some]
  exact ⟨rfl, rfl, by rw [← hd]; rfl⟩

lemma Presented.search (hn : n.Presented h) (hs : n.settings.sendOnly = false) (c : Controller) :
    ∃ a, (n.handle c.searchAll.1).2.answer = some a ∧ a.seoj = n.nodeProfileCode ∧
      a.esv = .getRes ∧
      a.entries = [⟨Epc.instanceList, InstanceList.encode n.objects.deviceCodes⟩] := by
  have hcode : h.code = .nodeProfile := by
    rw [hn.code, nodeProfileCode, hs]
    rfl
  have ha : n.objects.Addressed c.searchAll.1.deoj h
      fun h' => { n.objects with profiles := [h'] } := by
    have hp := @NodeObjects.Addressed.profile ObjectCode.nodeProfile n.objects.devices [] [] h
      (fun _ hg => absurd hg List.not_mem_nil) hcode
    rw [List.nil_append, ← hn.alone] at hp
    exact hp
  obtain ⟨p, hp, hr⟩ := Option.map_eq_some_iff.mp hn.readable
  have hok : ∀ e ∈ c.searchAll.1.entries, ¬ h.object.Refuses c.searchAll.1.esv e := by
    intro e he
    obtain rfl := List.mem_singleton.mp he
    rw [Object.refuses_iff hp, not_or, not_not]
    refine ⟨.read rfl (by rw [hr]; rfl), fun hw => ?_⟩
    cases hw.1
  have hx : c.searchAll.1.esv.Exchange (some .getRes) .getSna := .get
  have hd := Request.serve_quiet hn.listener hx hok n.outbox
  have hr : ¬ Service.get.Writes := by decide
  have ho : h.object.after c.searchAll.1 = h.object := if_neg hr
  simp only [handle, NodeObjects.handle_addressed ha, hd, Request.answer?_eq hx, ho]
  refine ⟨_, rfl, hn.code, rfl, ?_⟩
  have he : c.searchAll.1.entries = [Entry.empty Epc.instanceList] := rfl
  simp only [he, List.map_cons, List.map_nil, Entry.empty, hn.data _ (.inr rfl), Option.getD_some]

def furnished (settings : NodeSettings) (serial : Serial) (firstTid : UInt16)
    (devices : List HostedObject) : LocalNode :=
  (new settings serial firstTid).addAll (devices.map .device)

lemma filterMap_deviceCode? (devices : List HostedObject) :
    (devices.map Addition.device).filterMap Addition.deviceCode? =
      (devices.map (·.code)).filter fun c => !c.isProfile := by
  induction devices with
  | nil => rfl
  | cons h devices ih =>
    rw [List.map_cons, List.map_cons, List.filterMap_cons, List.filter_cons, ih,
      Addition.deviceCode?, Addition.object?]
    cases hp : h.code.isProfile with
    | false => simp only [Bool.false_eq_true, if_false, Option.map_some, Option.filter_some, hp,
        Bool.not_false, if_true]
    | true => rfl

/-- Whoever hears which devices a node has sets up the first 84 of them in order, and the node
profile that they belong to. A search gets the same answer from a node that receives. -/
theorem introduces_devices (settings : NodeSettings) (serial : Serial) (firstTid : UInt16)
    (devices : List HostedObject) (db : Database) (source : Endpoint) :
    let n := furnished settings serial firstTid devices
    n.objects.deviceCodes =
      ((devices.map (·.code)).filter fun c => !c.isProfile).eraseDups ∧
    ∃ frame m remote, n.instanceListNotification.1.encode = .ok frame ∧
      Message.decode frame = .ok m ∧ RemoteNode.ofMessage? source m db = some remote ∧
      remote.endpoint = source ∧
      remote.objects.deviceCodes = n.objects.deviceCodes.take 84 ∧
      remote.objects.profileCodes = [n.nodeProfileCode] ∧
      (settings.sendOnly = false → ∀ c : Controller, ∃ answer frame m,
        (n.handle c.searchAll.1).2.answer = some answer ∧ answer.encode = .ok frame ∧
        Message.decode frame = .ok m ∧ RemoteNode.ofMessage? source m db = some remote) := by
  intro n
  have sound : n.Sound := (sound_new settings serial firstTid).addAll _
  obtain ⟨_, h₀⟩ := presented_new settings serial firstTid
  obtain ⟨h, hn⟩ : ∃ h, n.Presented h := h₀.addAll devices
  have hd : n.objects.deviceCodes =
      ((devices.map (·.code)).filter fun c => !c.isProfile).eraseDups := by
    rw [← filterMap_deviceCode?]
    exact deviceCodes_addAll (n := new settings serial firstTid) List.nodup_nil _
  have hp : n.nodeProfileCode.isNodeProfile = true := isNodeProfile_nodeProfileCode n
  have hlisted : (n.objects.deviceCodes.take InstanceList.limit).Sublist n.objects.deviceCodes :=
    List.take_sublist _ _
  obtain ⟨hseoj, hesv, hentries⟩ := hn.notification
  obtain ⟨frame, he, hdec⟩ := Message.encode_of_entries hentries
  have hremote := RemoteNode.ofMessage?_of_entries db source (hseoj ▸ hp) (hesv ▸ rfl) (.inr rfl)
    hentries
  obtain ⟨hdevices, hprofiles⟩ := RemoteNode.codes_introduced db source
    (sound.isProfile _ (List.mem_of_mem_head? sound.first))
    (fun c hc => sound.isDevice c (hlisted.subset hc)) (sound.devices.sublist hlisted)
  rw [hseoj] at hremote
  refine ⟨hd, frame, _, _, he, hdec, hremote, rfl, hdevices, hprofiles, ?_⟩
  intro hs c
  have hs' : n.settings.sendOnly = false := (settings_addAll _ devices).symm ▸ hs
  obtain ⟨answer, ha, hseoj', hesv', hentries'⟩ := hn.search hs' c
  obtain ⟨frame', he', hdec'⟩ := Message.encode_of_entries hentries'
  have hremote' := RemoteNode.ofMessage?_of_entries db source (hseoj' ▸ hp) (hesv' ▸ rfl)
    (.inl rfl) hentries'
  rw [hseoj'] at hremote'
  exact ⟨answer, frame', answer, ha, he', hdec', hremote'⟩

end LocalNode

end EchonetLite

import EchonetLite.Proofs.Node.Introduction
import EchonetLite.Proofs.Node.Manufacturer

/-! How long a node can be discovered. Its notification carries the list of its devices as long as
the node profile has a property to hold that list, and the profile that a node starts with has one. -/

namespace EchonetLite

namespace NodeObjects

def announced? (n : NodeObjects) : Option Bytes :=
  n.nodeProfile?.bind (·.object.data? Epc.announcedInstances)

variable {n : NodeObjects} {g h : HostedObject} {list rest : List HostedObject}

lemma upsert_cons (hg : g.code ≠ h.code) : upsert (g :: list) h = g :: upsert list h := by
  have hb : (g.code == h.code) = false := beq_eq_false_iff_ne.mpr hg
  simp only [upsert, List.any_cons, hb, Bool.false_or, modifyFirst, Bool.false_eq_true, if_false,
    List.cons_append]
  split <;> rfl

lemma announced?_of_first (hp : n.profiles = h :: rest) (hc : h.code.isNodeProfile = true) :
    n.announced? = h.object.data? Epc.announcedInstances := by
  rw [announced?, nodeProfile?_of_first hp hc, Option.bind_some]

lemma announced?_refresh (n : NodeObjects) : n.refreshNodeProfile.announced? =
    n.announced?.map fun _ => InstanceList.encode n.deviceCodes := by
  rw [announced?, announced?, nodeProfile?_refresh]
  cases n.nodeProfile? with
  | none => rfl
  | some h => exact Object.data?_listed (.inl rfl) h.object n.deviceCodes

lemma announced?_of_refresh {lists : Bool} (h : n.announced?.isSome = lists) :
    n.refreshNodeProfile.announced? =
      if lists then some (InstanceList.encode n.deviceCodes) else none := by
  rw [announced?_refresh, ← h]
  cases n.announced? <;> rfl

end NodeObjects

lemma RemoteNode.ofMessage?_of_empty {m : Message} (db : Database) (source : Endpoint)
    (hm : m.entries = [⟨Epc.announcedInstances, []⟩]) : ofMessage? source m db = none := by
  have hd : instanceData? m = none := by
    rw [instanceData?, Message.entry?, Message.entry?, hm]
    split <;> rfl
  rw [ofMessage?, hd, Option.map_none]

namespace LocalNode

def Call.object? : Call → Option HostedObject
  | .add a => a.object?
  | .setManufacturer _ _ => none

def Call.last? (c : ObjectCode) (calls : List Call) : Option HostedObject :=
  (calls.filterMap object?).findRev? (·.code == c)

def Call.lists (c : ObjectCode) (calls : List Call) : Bool :=
  (last? c calls).all fun h => (h.object.data? Epc.announcedInstances).isSome

structure Listed (n : LocalNode) (calls : List Call) : Prop where
  sound : n.Sound
  announced : n.objects.announced? = if Call.lists n.nodeProfileCode calls then
    some (InstanceList.encode n.objects.deviceCodes) else none

variable {n : LocalNode} {a : Addition} {h : HostedObject} {calls : List Call}

lemma last?_concat (c : ObjectCode) (calls : List Call) (call : Call) :
    Call.last? c (calls ++ [call]) =
      (call.object?.filter (·.code == c)).or (Call.last? c calls) := by
  rw [Call.last?, Call.last?, List.findRev?_eq_find?_reverse, List.findRev?_eq_find?_reverse,
    List.filterMap_append, List.reverse_append, List.find?_append]
  cases hc : call.object? with
  | none => simp [hc]
  | some h => by_cases he : h.code = c <;> simp [hc, he, Option.filter_some]

lemma lists_concat_of_ne {c : ObjectCode} {call : Call}
    (hc : ∀ h, call.object? = some h → h.code ≠ c) :
    Call.lists c (calls ++ [call]) = Call.lists c calls := by
  have hn : call.object?.filter (·.code == c) = none := by
    rw [Option.filter_eq_none_iff]
    intro h hh
    simpa using hc h hh
  rw [Call.lists, last?_concat, hn, Option.none_or, Call.lists]

lemma lists_concat_of_eq {call : Call} (hc : call.object? = some h) :
    Call.lists h.code (calls ++ [call]) =
      (h.object.data? Epc.announcedInstances).isSome := by
  have hf : call.object?.filter (·.code == h.code) = some h := by
    rw [hc, Option.filter_some, beq_self_eq_true, if_pos rfl]
  rw [Call.lists, last?_concat, hf, Option.some_or, Option.all_some]

lemma Sound.code_ne (hn : n.Sound) (hd : h.code.isProfile = false) :
    h.code ≠ n.nodeProfileCode := by
  intro he
  have hp := hn.isProfile _ (List.mem_of_mem_head? hn.first)
  rw [← he, hd] at hp
  cases hp

lemma announced?_addProfile (hn : n.Sound) (h : HostedObject) :
    (n.objects.addProfile h).announced? =
      if h.code = n.nodeProfileCode then h.object.data? Epc.announcedInstances
      else n.objects.announced? := by
  obtain ⟨g, rest, hp, hg, _⟩ := hn.exists_first
  have hnp := isNodeProfile_nodeProfileCode n
  split
  case isTrue hc =>
    have hr : (n.objects.addProfile h).profiles = h :: rest := by
      rw [NodeObjects.addProfile, hp]
      exact @NodeObjects.upsert_append g h [] rest List.not_mem_nil (hg.trans hc.symm)
    exact NodeObjects.announced?_of_first hr (hc ▸ hnp)
  case isFalse hc =>
    have hr : (n.objects.addProfile h).profiles = g :: NodeObjects.upsert rest h := by
      rw [NodeObjects.addProfile, hp]
      exact NodeObjects.upsert_cons fun he => hc (he.symm.trans hg)
    rw [NodeObjects.announced?_of_first hr (hg ▸ hnp), NodeObjects.announced?_of_first hp (hg ▸ hnp)]

lemma data?_adopt (n : LocalNode) (h : HostedObject) :
    (n.adopt h).object.data? Epc.announcedInstances = h.object.data? Epc.announcedInstances := by
  have hm : Epc.announcedInstances ≠ Epc.manufacturer := by decide
  exact (Object.data?_store h.object _ _ _).trans (if_neg hm)

lemma announced?_setManufacturer (hn : n.Sound) (code : UInt32) (serial : Serial) :
    (n.setManufacturer code serial).objects.announced? = n.objects.announced? := by
  obtain ⟨h, rest, hp, hc, _⟩ := hn.exists_first
  have hnp : h.code.isNodeProfile = true := hc ▸ isNodeProfile_nodeProfileCode n
  have hm : Epc.announcedInstances ≠ Epc.manufacturer := by decide
  have hi : Epc.announcedInstances ≠ Epc.identification := by decide
  rw [NodeObjects.announced?_of_first (profiles_setManufacturer hp hnp code serial) hnp,
    NodeObjects.announced?_of_first hp hnp, Object.data?_store, if_neg hi, Object.setManufacturer,
    Object.data?_store, if_neg hm]

lemma Listed.isSome (hn : n.Listed calls) :
    n.objects.announced?.isSome = Call.lists n.nodeProfileCode calls := by
  rw [hn.announced]
  cases Call.lists n.nodeProfileCode calls <;> rfl

lemma Listed.add (hn : n.Listed calls) (a : Addition) : (n.add a).Listed (calls ++ [.add a]) where
  sound := hn.sound.add a
  announced := by
    have hs : (n.add a).nodeProfileCode = n.nodeProfileCode := by
      rw [nodeProfileCode, nodeProfileCode, settings_add]
    have ha := n.added a
    rw [hs, LocalNode.add]
    generalize n.add? a = r at ha
    cases ha with
    | @device h ho hd =>
      refine NodeObjects.announced?_of_refresh (n := n.objects.addDevice (n.adopt h)) ?_
      rw [lists_concat_of_ne]
      · exact hn.isSome
      · intro g hg
        obtain rfl := Option.some.inj (ho.symm.trans hg)
        exact hn.sound.code_ne hd
    | @profile h ho hp =>
      refine NodeObjects.announced?_of_refresh (n := n.objects.addProfile (n.adopt h)) ?_
      have hc : (n.adopt h).code = h.code := rfl
      rw [announced?_addProfile hn.sound, data?_adopt, hc]
      split
      case isTrue he =>
        have hj : Call.object? (.add a) = some h := ho
        rw [← he, lists_concat_of_eq hj]
      case isFalse he =>
        rw [hn.isSome, lists_concat_of_ne]
        intro g hg
        obtain rfl := Option.some.inj (ho.symm.trans hg)
        exact he
    | refused ho =>
      rw [lists_concat_of_ne]
      · exact hn.announced
      · intro g hg
        cases ho.symm.trans hg

lemma Listed.setManufacturer (hn : n.Listed calls) (code : UInt32) (serial : Serial) :
    (n.setManufacturer code serial).Listed (calls ++ [.setManufacturer code serial]) where
  sound := sound_setManufacturer hn.sound code serial
  announced := by
    have hd : (n.setManufacturer code serial).objects.deviceCodes = n.objects.deviceCodes :=
      List.map_map
    rw [announced?_setManufacturer hn.sound, hd, lists_concat_of_ne]
    · exact hn.announced
    · intro g hg
      cases hg

lemma listed_new (settings : NodeSettings) (serial : Serial) (firstTid : UInt16) :
    (new settings serial firstTid).Listed [] where
  sound := sound_new settings serial firstTid
  announced := by
    obtain ⟨h, hp⟩ := presented_new settings serial firstTid
    have hc : h.code.isNodeProfile = true := hp.code ▸ isNodeProfile_nodeProfileCode _
    exact (NodeObjects.announced?_of_first hp.alone hc).trans (hp.data _ (.inl rfl))

lemma listed_callAll (settings : NodeSettings) (serial : Serial) (firstTid : UInt16)
    (calls : List Call) : ((new settings serial firstTid).callAll calls).Listed calls :=
  callAll_invariant (listed_new settings serial firstTid) (fun hl a => hl.add a)
    (fun hl code serial => hl.setManufacturer code serial) calls

/-- Whatever objects and manufacturer codes a node is given, what it says about its devices lets
others set up the first 84 of them exactly if the node profile that was added last, if one was, has a
property for the list of devices. Otherwise it says nothing, and nobody discovers the node. -/
theorem discoverable_iff (settings : NodeSettings) (serial : Serial) (firstTid : UInt16)
    (calls : List Call) (db : Database) (source : Endpoint) :
    let n := (new settings serial firstTid).callAll calls
    let m := n.instanceListNotification.1
    (Call.lists (Object.nodeProfileCode settings.sendOnly) calls = true →
      m.entries = [⟨Epc.announcedInstances, InstanceList.encode n.objects.deviceCodes⟩] ∧
      ∃ remote, RemoteNode.ofMessage? source m db = some remote ∧
        remote.objects.deviceCodes = n.objects.deviceCodes.take 84) ∧
    (Call.lists (Object.nodeProfileCode settings.sendOnly) calls = false →
      m.entries = [⟨Epc.announcedInstances, []⟩] ∧ RemoteNode.ofMessage? source m db = none) := by
  intro n m
  have hn : n.Listed calls := listed_callAll settings serial firstTid calls
  have hs : n.settings = settings := settings_callAll _ calls
  have hp : m.seoj.isNodeProfile = true := isNodeProfile_nodeProfileCode n
  have he : m.entries = [⟨Epc.announcedInstances, n.objects.announced?.getD []⟩] := rfl
  have ha := hn.announced
  rw [nodeProfileCode, hs] at ha
  constructor
  · intro hl
    rw [if_pos hl] at ha
    rw [ha, Option.getD_some] at he
    have hlisted : (n.objects.deviceCodes.take InstanceList.limit).Sublist n.objects.deviceCodes :=
      List.take_sublist _ _
    exact ⟨he, _, RemoteNode.ofMessage?_of_entries db source hp rfl (.inr rfl) he,
      (RemoteNode.codes_introduced db source
        (hn.sound.isProfile _ (List.mem_of_mem_head? hn.sound.first))
        (fun c hc => hn.sound.isDevice c (hlisted.subset hc))
        (hn.sound.devices.sublist hlisted)).1⟩
  · intro hl
    rw [if_neg (Bool.eq_false_iff.mp hl)] at ha
    rw [ha, Option.getD_none] at he
    exact ⟨he, RemoteNode.ofMessage?_of_empty db source he⟩

theorem not_discoverable :
    ∃ n, ((new {} (.replicate 13 0) 0).add
        (.device { object := .device ⟨0x02, 0x90, 0x01⟩ })).add?
          (.profile { object := .profile 0xF0 0x01 }) = .ok n ∧
      n.objects.deviceCodes = [⟨0x02, 0x90, 0x01⟩] ∧
      n.instanceListNotification.1.entries = [⟨Epc.announcedInstances, []⟩] ∧
      RemoteNode.ofMessage? (.ofIpv4 .localhost 3610) n.instanceListNotification.1 {} = none :=
  ⟨_, rfl, rfl, rfl, rfl⟩

end LocalNode

end EchonetLite

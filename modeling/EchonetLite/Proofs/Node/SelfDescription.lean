import EchonetLite.Proofs.Node.Additions
import EchonetLite.Proofs.Node.Serving
import EchonetLite.Proofs.Object.Description

/-! A node profile is in step with the devices of its node whenever an object has been added, and
requests from outside leave what it says about the devices alone. -/

namespace EchonetLite

namespace Object

def Guarded (o : Object) : Prop :=
  ∀ epc ∈ deviceEpcs, ∀ p, o.property? epc = some p → p.isWritable = false

variable {o : Object} {m : Message} {e : Entry}

lemma writable_of_accepted (hw : m.esv.Writes) (ha : ¬ o.Refuses m.esv e) :
    ∃ p, o.property? e.epc = some p ∧ p.isWritable = true := by
  obtain ⟨p, hp⟩ := exists_property ha
  rw [refuses_iff hp, not_or, not_not] at ha
  refine ⟨p, hp, ?_⟩
  generalize m.esv = esv at hw ha
  rcases ha.1 with ⟨_, h⟩ | ⟨rfl, _⟩ | ⟨rfl, _⟩ | ⟨_, h, _⟩
  · exact h
  · exact absurd hw (by decide)
  · exact absurd hw (by decide)
  · exact h

lemma Guarded.property?_after (hg : o.Guarded) (ha : ∀ e ∈ m.entries, ¬ o.Refuses m.esv e)
    {epc : UInt8} (hd : epc ∈ deviceEpcs) : (o.after m).property? epc = o.property? epc := by
  rw [after]
  split
  case isTrue hw =>
    have hn : ∀ e ∈ m.entries, e.epc ≠ epc := by
      rintro e he rfl
      obtain ⟨p, hp, hpw⟩ := writable_of_accepted hw (ha e he)
      rw [hg e.epc hd p hp] at hpw
      cases hpw
    rw [property?_storeAll, Entry.lastData?_eq_none hn]
    exact Option.map_id'
  case isFalse => rfl

end Object

structure HostedObject.Agrees (h h' : HostedObject) : Prop where
  code : h'.code = h.code
  listener : h'.listener = h.listener
  devices : ∀ epc ∈ Object.deviceEpcs, h'.object.property? epc = h.object.property? epc

namespace HostedObject

variable {h h' h'' : HostedObject}

lemma Agrees.refl (h : HostedObject) : h.Agrees h := ⟨rfl, rfl, fun _ _ => rfl⟩

lemma Agrees.trans (h₁ : h.Agrees h') (h₂ : h'.Agrees h'') : h.Agrees h'' where
  code := h₂.code.trans h₁.code
  listener := h₂.listener.trans h₁.listener
  devices epc he := (h₂.devices epc he).trans (h₁.devices epc he)

lemma Agrees.guarded (ha : h.Agrees h') (hg : h.object.Guarded) : h'.object.Guarded := by
  intro epc he p hp
  rw [ha.devices epc he] at hp
  exact hg epc he p hp

lemma agrees_serve (hl : h.listener = none) (hg : h.object.Guarded) (m : Message) (out : Outbox) :
    h.Agrees { h with object := (Request.serve h m out).object } := by
  rcases Request.serve_object hl m out with ho | ⟨ha, ho⟩
  · rw [ho]
    exact .refl h
  · rw [ho]
    exact ⟨Object.code_after h.object m, rfl, fun epc he => hg.property?_after ha he⟩

end HostedObject

namespace NodeObjects

variable {n : NodeObjects} {h : HostedObject} {rest : List HostedObject}

lemma nodeProfile?_refresh (n : NodeObjects) : n.refreshNodeProfile.nodeProfile? =
    n.nodeProfile?.map fun h => { h with object := h.object.describeDevices n.deviceCodes } := by
  refine find?_modifyFirst ?_ n.profiles
  intro h
  rfl

lemma describes_refresh (hn : n.deviceCodes.Nodup) (hd : ∀ c ∈ n.deviceCodes, c.isProfile = false)
    (hp : n.refreshNodeProfile.nodeProfile? = some h) : h.object.Describes n.deviceCodes := by
  rw [nodeProfile?_refresh] at hp
  obtain ⟨g, _, rfl⟩ := Option.map_eq_some_iff.mp hp
  exact Object.describes_describeDevices g.object hn hd

lemma first_handle (hp : n.profiles = h :: rest) (hl : h.listener = none) (hg : h.object.Guarded)
    (m : Message) (out : Outbox) :
    ∃ h' rest', (n.handle m out).objects.profiles = h' :: rest' ∧ h.Agrees h' := by
  rcases n.exists_addressed_or m.deoj with ⟨g, put, ha⟩ | hn
  · rw [handle_addressed ha]
    cases ha with
    | @profile devices before after g hb hg' =>
      cases before with
      | nil =>
        obtain ⟨rfl, rfl⟩ := List.cons.inj hp
        exact ⟨_, _, rfl, HostedObject.agrees_serve hl hg m out⟩
      | cons b before =>
        obtain ⟨rfl, rfl⟩ := List.cons.inj hp
        exact ⟨_, _, rfl, .refl b⟩
    | device => exact ⟨h, rest, hp, .refl h⟩
  · rw [handle_unaddressed hn]
    exact ⟨h, rest, hp, .refl h⟩

end NodeObjects

namespace LocalNode

def handleAll (n : LocalNode) (messages : List Message) : LocalNode :=
  messages.foldl (fun n m => (n.handle m).1) n

variable {n n' : LocalNode} {a : Addition} {h : HostedObject} {rest : List HostedObject}

lemma first_handleAll (hp : n.objects.profiles = h :: rest) (hl : h.listener = none)
    (hg : h.object.Guarded) (messages : List Message) :
    ∃ h' rest', (n.handleAll messages).objects.profiles = h' :: rest' ∧ h.Agrees h' := by
  induction messages generalizing n h rest with
  | nil => exact ⟨h, rest, hp, .refl h⟩
  | cons m messages ih =>
    obtain ⟨h₁, rest₁, hp₁, ha₁⟩ := NodeObjects.first_handle hp hl hg m n.outbox
    obtain ⟨h₂, rest₂, hp₂, ha₂⟩ := ih (n := (n.handle m).1) hp₁ (ha₁.listener.trans hl)
      (ha₁.guarded hg)
    exact ⟨h₂, rest₂, hp₂, ha₁.trans ha₂⟩

lemma deviceCodes_add (n : LocalNode) (a : Addition) : (n.add a).objects.deviceCodes =
    a.deviceCode?.elim n.objects.deviceCodes (ObjectCode.enrol n.objects.deviceCodes) := by
  have ha := n.added a
  rw [add, Addition.deviceCode?]
  generalize n.add? a = r at ha
  cases ha with
  | @device h ho hd =>
    rw [ho, Option.map_some, Option.filter_some, hd]
    exact NodeObjects.map_code_upsert _ _
  | @profile h ho hp =>
    rw [ho, Option.map_some, Option.filter_some, hp]
    rfl
  | refused ho =>
    rw [ho]
    rfl

lemma addAll_concat (n : LocalNode) (calls : List Addition) (a : Addition) :
    n.addAll (calls ++ [a]) = (n.addAll calls).add a :=
  List.foldl_append

lemma exists_refreshed (ha : n.add? a = .ok n') :
    ∃ objects : NodeObjects, n' = { n with objects := objects.refreshNodeProfile } := by
  have h := n.added a
  rw [ha] at h
  cases h with
  | device => exact ⟨_, rfl⟩
  | profile => exact ⟨_, rfl⟩

lemma deviceCodes_addAll (hn : n.objects.deviceCodes.Nodup) (calls : List Addition) :
    (n.addAll calls).objects.deviceCodes =
      (n.objects.deviceCodes ++ calls.filterMap Addition.deviceCode?).eraseDups := by
  induction calls using List.reverseRecOn with
  | nil =>
    rw [List.filterMap_nil, List.append_nil, ObjectCode.eraseDups_of_nodup hn]
    rfl
  | append_singleton calls a ih =>
    rw [addAll_concat, deviceCodes_add, ih, ObjectCode.eraseDups_filterMap_concat]

/-- Whatever objects are added to a node, after each call that succeeds the node profile describes
the devices that the node has by then, in the order in which their codes were first added. What it
says about them can be changed from outside only where a listener answers for the node profile or a
property that says it can be written. -/
theorem nodeProfile_describes_devices {n : LocalNode} (hn : n.Reached) :
    (∀ calls a n', (n.addAll calls).add? a = .ok n' →
      n'.objects.deviceCodes = (n.objects.deviceCodes ++
        (calls ++ [a]).filterMap Addition.deviceCode?).eraseDups ∧
      ∃ h, n'.objects.nodeProfile? = some h ∧ h.object.Describes n'.objects.deviceCodes) ∧
    ∀ h, n.objects.nodeProfile? = some h → h.listener = none → h.object.Guarded → ∀ messages,
      ∃ h', (n.handleAll messages).objects.nodeProfile? = some h' ∧
        ∀ epc ∈ Object.deviceEpcs, h'.object.data? epc = h.object.data? epc := by
  refine ⟨?_, ?_⟩
  · intro calls a n' ha
    have he : n' = n.addAll (calls ++ [a]) := by rw [addAll_concat, add, ha]
    have hs : n'.Sound := he ▸ hn.sound.addAll (calls ++ [a])
    obtain ⟨h, rest, _, _, hp⟩ := hs.exists_first
    obtain ⟨objects, rfl⟩ := exists_refreshed ha
    refine ⟨?_, h, hp, NodeObjects.describes_refresh (n := objects) hs.devices hs.isDevice hp⟩
    rw [he]
    exact deviceCodes_addAll hn.sound.devices (calls ++ [a])
  · intro h hp hl hg messages
    obtain ⟨h₀, rest, hf, hc, hp₀⟩ := hn.sound.exists_first
    obtain rfl := Option.some.inj (hp₀.symm.trans hp)
    obtain ⟨h', rest', hf', ha⟩ := first_handleAll hf hl hg messages
    have hc' : h'.code.isNodeProfile = true := by
      rw [ha.code, hc]
      exact isNodeProfile_nodeProfileCode n
    refine ⟨h', NodeObjects.nodeProfile?_of_first hf' hc', ?_⟩
    intro epc he
    rw [Object.data?, Object.data?, ha.devices epc he]

theorem nodeProfile_describes_lamps :
    ∃ n h, (addAll (new {} (.replicate 13 0) 0)
        [.device { object := .device ⟨0x02, 0x90, 0x01⟩ },
          .device { object := .device ⟨0x02, 0x90, 0x02⟩ }]).add?
        (.device { object := .device ⟨0x02, 0x90, 0x01⟩ }) = .ok n ∧
      n.objects.nodeProfile? = some h ∧
      h.object.Describes [⟨0x02, 0x90, 0x01⟩, ⟨0x02, 0x90, 0x02⟩] := by
  obtain ⟨hd, h, hp, hs⟩ := (nodeProfile_describes_devices (.new {} (.replicate 13 0) 0)).1
    [.device { object := .device ⟨0x02, 0x90, 0x01⟩ },
      .device { object := .device ⟨0x02, 0x90, 0x02⟩ }]
    (.device { object := .device ⟨0x02, 0x90, 0x01⟩ }) _ rfl
  refine ⟨_, h, rfl, hp, ?_⟩
  rw [hd] at hs
  exact hs

end LocalNode

end EchonetLite

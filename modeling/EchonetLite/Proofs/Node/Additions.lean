import EchonetLite.Node.Local
import EchonetLite.Proofs.Node.Addressing
import Mathlib.Data.List.Induction
import Mathlib.Data.List.Nodup

/-! Objects join a node one at a time. A new code goes to the end of its list, and an object with a
known code takes the place of the one that had it, so no two objects of a node share a code. -/

namespace EchonetLite

def ObjectCode.enrol (codes : List ObjectCode) (c : ObjectCode) : List ObjectCode :=
  if c ∈ codes then codes else codes ++ [c]

namespace ObjectCode

variable {codes : List ObjectCode} {c d : ObjectCode}

lemma mem_enrol : d ∈ enrol codes c ↔ d ∈ codes ∨ d = c := by
  rw [enrol]
  split
  case isTrue hc => exact ⟨.inl, fun h => h.elim id fun he => he ▸ hc⟩
  case isFalse => rw [List.mem_append, List.mem_singleton]

lemma nodup_enrol (h : codes.Nodup) (c : ObjectCode) : (enrol codes c).Nodup := by
  rw [enrol]
  split
  case isTrue => exact h
  case isFalse hc =>
    refine List.nodup_append.mpr ⟨h, List.nodup_singleton c, ?_⟩
    rintro d hd e he rfl
    exact hc (List.mem_singleton.mp he ▸ hd)

lemma head?_enrol (h : codes.head? = some d) (c : ObjectCode) :
    (enrol codes c).head? = some d := by
  rw [enrol]
  split
  · exact h
  · rw [List.head?_append, h, Option.some_or]

lemma eraseDups_concat (codes : List ObjectCode) (c : ObjectCode) :
    (codes ++ [c]).eraseDups = enrol codes.eraseDups c := by
  have hs : [c].eraseDups = [c] := by rw [List.eraseDups_cons, List.filter_nil, List.eraseDups_nil]
  rw [List.eraseDups_append, enrol]
  by_cases h : c ∈ codes <;> simp [List.removeAll, h, hs]

lemma eraseDups_of_nodup (h : codes.Nodup) : codes.eraseDups = codes := by
  induction codes using List.reverseRecOn with
  | nil => rfl
  | append_singleton codes c ih =>
    obtain ⟨hn, _, hd⟩ := List.nodup_append.mp h
    have hc : c ∉ codes := fun hc => hd c hc c List.mem_cons_self rfl
    rw [eraseDups_concat, ih hn, enrol, if_neg hc]

lemma eraseDups_filterMap_concat {α : Type} (f : α → Option ObjectCode) (list : List α) (x : α) :
    (codes ++ (list ++ [x]).filterMap f).eraseDups =
      (f x).elim (codes ++ list.filterMap f).eraseDups
        (enrol (codes ++ list.filterMap f).eraseDups) := by
  rw [List.filterMap_append, ← List.append_assoc]
  cases hx : f x with
  | none => rw [List.filterMap_cons_none hx, List.filterMap_nil, List.append_nil, Option.elim_none]
  | some c => rw [List.filterMap_cons_some hx, List.filterMap_nil, eraseDups_concat, Option.elim_some]

lemma nodup_eraseDups (codes : List ObjectCode) : codes.eraseDups.Nodup := by
  induction codes using List.reverseRecOn with
  | nil => exact List.nodup_nil
  | append_singleton codes c ih =>
    rw [eraseDups_concat]
    exact nodup_enrol ih c

end ObjectCode

namespace Object

lemma code_refreshMaps (o : Object) : o.refreshMaps.code = o.code := rfl

lemma code_describeDevices (o : Object) (devices : List ObjectCode) :
    (o.describeDevices devices).code = o.code := rfl

lemma code_place (o : Object) (epc : UInt8) (access : Access) (data : Bytes) :
    (o.place epc access data).code = o.code := rfl

lemma code_setManufacturer (o : Object) (code : UInt32) : (o.setManufacturer code).code = o.code :=
  rfl

lemma code_nodeProfile (manufacturer : UInt32) (sendOnly : Bool) (serial : Serial) :
    (nodeProfile manufacturer sendOnly serial).code = nodeProfileCode sendOnly := by
  simp only [nodeProfile, profile, basic, bare, code_describeDevices, code_refreshMaps, code_place,
    code_setManufacturer]
  cases sendOnly <;> rfl

end Object

namespace NodeObjects

def profileCodes (n : NodeObjects) : List ObjectCode := n.profiles.map (·.code)

lemma map_modifyFirst {α β : Type} {test : α → Bool} {f : α → α} {g : α → β}
    (hf : ∀ x, test x = true → g (f x) = g x) (list : List α) :
    (modifyFirst test f list).map g = list.map g := by
  induction list with
  | nil => rfl
  | cons x list ih =>
    rw [modifyFirst]
    split
    case isTrue hx => rw [List.map_cons, List.map_cons, hf x hx]
    case isFalse => rw [List.map_cons, List.map_cons, ih]

lemma find?_modifyFirst {α : Type} {test : α → Bool} {f : α → α}
    (hf : ∀ x, test (f x) = test x) (list : List α) :
    (modifyFirst test f list).find? test = (list.find? test).map f := by
  induction list with
  | nil => rfl
  | cons x list ih =>
    rw [modifyFirst]
    split
    case isTrue hx =>
      rw [List.find?_cons_of_pos ((hf x).trans hx), List.find?_cons_of_pos hx, Option.map_some]
    case isFalse hx => rw [List.find?_cons_of_neg hx, List.find?_cons_of_neg hx, ih]

variable {list rest : List HostedObject} {g h : HostedObject} {n : NodeObjects} {code : ObjectCode}

lemma upsert_append {before after : List HostedObject} (hb : h.code ∉ before.map (·.code))
    (hg : g.code = h.code) : upsert (before ++ g :: after) h = before ++ h :: after := by
  have ha : (before ++ g :: after).any (·.code == h.code) = true :=
    List.any_eq_true.mpr ⟨g, by simp, beq_iff_eq.mpr hg⟩
  rw [upsert, if_pos ha]
  apply modifyFirst_append
  · intro x hx
    exact beq_eq_false_iff_ne.mpr fun he => hb (List.mem_map.mpr ⟨x, hx, he⟩)
  · exact beq_iff_eq.mpr hg

lemma upsert_new (hn : h.code ∉ list.map (·.code)) : upsert list h = list ++ [h] := by
  have ha : ¬ list.any (·.code == h.code) = true := by
    rw [List.any_eq_true]
    rintro ⟨x, hx, he⟩
    exact hn (List.mem_map.mpr ⟨x, hx, beq_iff_eq.mp he⟩)
  rw [upsert, if_neg ha]

lemma exists_first (hc : code ∈ list.map (·.code)) : ∃ before g after, list = before ++ g :: after ∧
    g.code = code ∧ code ∉ before.map (·.code) := by
  induction list with
  | nil => cases hc
  | cons x list ih =>
    by_cases hx : x.code = code
    · exact ⟨[], x, list, rfl, hx, nofun⟩
    · rw [List.map_cons, List.mem_cons] at hc
      obtain ⟨before, g, after, rfl, hg, hb⟩ := ih (hc.resolve_left (Ne.symm hx))
      refine ⟨x :: before, g, after, rfl, hg, ?_⟩
      rw [List.map_cons, List.mem_cons, not_or]
      exact ⟨Ne.symm hx, hb⟩

lemma map_code_upsert (list : List HostedObject) (h : HostedObject) :
    (upsert list h).map (·.code) = ObjectCode.enrol (list.map (·.code)) h.code := by
  rw [ObjectCode.enrol]
  split
  case isTrue hc =>
    obtain ⟨before, g, after, rfl, hg, hb⟩ := exists_first hc
    rw [upsert_append hb hg]
    simp only [List.map_append, List.map_cons, hg]
  case isFalse hc => rw [upsert_new hc, List.map_append, List.map_singleton]

lemma mem_upsert (hn : (list.map (·.code)).Nodup) :
    g ∈ upsert list h ↔ g = h ∨ g ∈ list ∧ g.code ≠ h.code := by
  by_cases hc : h.code ∈ list.map (·.code)
  · obtain ⟨before, g', after, rfl, hg, hb⟩ := exists_first hc
    have ha : h.code ∉ after.map (·.code) := by
      rw [List.map_append, List.map_cons, hg] at hn
      exact (List.nodup_cons.mp (List.nodup_append.mp hn).2.1).1
    have hne : ∀ x ∈ before ++ after, x.code ≠ h.code := by
      intro x hx he
      rcases List.mem_append.mp hx with hx | hx
      · exact hb (List.mem_map.mpr ⟨x, hx, he⟩)
      · exact ha (List.mem_map.mpr ⟨x, hx, he⟩)
    rw [upsert_append hb hg]
    constructor
    · intro hm
      rcases List.mem_append.mp hm with hm | hm
      · exact .inr ⟨List.mem_append_left _ hm, hne g (List.mem_append_left _ hm)⟩
      · rcases List.mem_cons.mp hm with rfl | hm
        · exact .inl rfl
        · exact .inr ⟨List.mem_append_right _ (List.mem_cons_of_mem _ hm),
            hne g (List.mem_append_right _ hm)⟩
    · rintro (rfl | ⟨hm, hgne⟩)
      · exact List.mem_append_right _ List.mem_cons_self
      · rcases List.mem_append.mp hm with hm | hm
        · exact List.mem_append_left _ hm
        · rcases List.mem_cons.mp hm with rfl | hm
          · exact absurd hg hgne
          · exact List.mem_append_right _ (List.mem_cons_of_mem _ hm)
  · have hne : g ∈ list → g.code ≠ h.code := fun hm he => hc (List.mem_map.mpr ⟨g, hm, he⟩)
    rw [upsert_new hc, List.mem_append, List.mem_singleton, or_comm]
    exact or_congr_right ⟨fun hm => ⟨hm, hne hm⟩, And.left⟩

lemma nodeProfile?_of_first (hp : n.profiles = h :: rest) (hc : h.code.isNodeProfile = true) :
    n.nodeProfile? = some h := by
  rw [nodeProfile?, hp]
  exact List.find?_cons_of_pos hc

lemma deviceCodes_add (hd : h.code.isProfile = false) :
    (n.add h).deviceCodes = ObjectCode.enrol n.deviceCodes h.code ∧
      (n.add h).profileCodes = n.profileCodes := by
  rw [add, if_neg (Bool.eq_false_iff.mp hd)]
  exact ⟨map_code_upsert _ _, rfl⟩

lemma profileCodes_add (hp : h.code.isProfile = true) :
    (n.add h).profileCodes = ObjectCode.enrol n.profileCodes h.code ∧
      (n.add h).deviceCodes = n.deviceCodes := by
  rw [add, if_pos hp]
  exact ⟨map_code_upsert _ _, rfl⟩

lemma profileCodes_refresh (n : NodeObjects) :
    n.refreshNodeProfile.profileCodes = n.profileCodes := by
  refine map_modifyFirst ?_ n.profiles
  intro h _
  rfl

end NodeObjects

namespace LocalNode

inductive Addition where
  | device (h : HostedObject)
  | profile (h : HostedObject)

def Addition.object? : Addition → Option HostedObject
  | .device h => if h.code.isProfile then none else some h
  | .profile h => if h.code.isProfile then some h else none

def Addition.deviceCode? (a : Addition) : Option ObjectCode :=
  (a.object?.map (·.code)).filter (!·.isProfile)

def add? (n : LocalNode) : Addition → Except Error LocalNode
  | .device h => n.addDevice h
  | .profile h => n.addProfile h

def add (n : LocalNode) (a : Addition) : LocalNode :=
  match n.add? a with
  | .ok n' => n'
  | .error _ => n

def addAll (n : LocalNode) (calls : List Addition) : LocalNode := calls.foldl add n

inductive Added (n : LocalNode) (a : Addition) : Except Error LocalNode → Prop
  | device {h : HostedObject} : a.object? = some h → h.code.isProfile = false → Added n a
      (.ok { n with objects := (n.objects.addDevice (n.adopt h)).refreshNodeProfile })
  | profile {h : HostedObject} : a.object? = some h → h.code.isProfile = true → Added n a
      (.ok { n with objects := (n.objects.addProfile (n.adopt h)).refreshNodeProfile })
  | refused {e : Error} : a.object? = none → Added n a (.error e)

lemma added (n : LocalNode) (a : Addition) : n.Added a (n.add? a) := by
  cases a with
  | device h =>
    rw [add?, addDevice]
    split
    case isTrue hp => exact .refused (if_pos hp)
    case isFalse hd => exact .device (if_neg hd) (Bool.eq_false_iff.mpr hd)
  | profile h =>
    rw [add?, addProfile]
    cases hp : h.code.isProfile with
    | false => exact .refused (if_neg (Bool.eq_false_iff.mp hp))
    | true => exact .profile (if_pos hp) hp

lemma settings_add (n : LocalNode) (a : Addition) : (n.add a).settings = n.settings := by
  have ha := n.added a
  rw [add]
  generalize n.add? a = r at ha
  cases ha <;> rfl

structure Sound (n : LocalNode) : Prop where
  devices : n.objects.deviceCodes.Nodup
  profiles : n.objects.profileCodes.Nodup
  isDevice : ∀ c ∈ n.objects.deviceCodes, c.isProfile = false
  isProfile : ∀ c ∈ n.objects.profileCodes, c.isProfile = true
  first : n.objects.profileCodes.head? = some n.nodeProfileCode

inductive Reached : LocalNode → Prop
  | new (settings : NodeSettings) (serial : Serial) (firstTid : UInt16) :
      Reached (new settings serial firstTid)
  | added {n : LocalNode} (a : Addition) : Reached n → Reached (n.add a)
  | placed {n : LocalNode} (h : HostedObject) : Reached n →
      Reached { n with objects := n.objects.add h }
  | changed {n n' : LocalNode} : Reached n → n'.settings = n.settings →
      n'.objects.deviceCodes = n.objects.deviceCodes →
      n'.objects.profileCodes = n.objects.profileCodes → Reached n'

variable {n n' : LocalNode} {a : Addition} {g h : HostedObject}

lemma Sound.changed (hn : n.Sound) (hs : n'.settings = n.settings)
    (hd : n'.objects.deviceCodes = n.objects.deviceCodes)
    (hp : n'.objects.profileCodes = n.objects.profileCodes) : n'.Sound where
  devices := hd ▸ hn.devices
  profiles := hp ▸ hn.profiles
  isDevice := hd ▸ hn.isDevice
  isProfile := hp ▸ hn.isProfile
  first := by rw [hp, hn.first, nodeProfileCode, nodeProfileCode, hs]

lemma profileCodes_new (settings : NodeSettings) (serial : Serial) (firstTid : UInt16) :
    (new settings serial firstTid).objects.profileCodes =
      [Object.nodeProfileCode settings.sendOnly] := by
  rw [new, NodeObjects.profileCodes, List.map_singleton, ← Object.code_nodeProfile]

lemma sound_new (settings : NodeSettings) (serial : Serial) (firstTid : UInt16) :
    (new settings serial firstTid).Sound where
  devices := List.nodup_nil
  profiles := by
    rw [profileCodes_new]
    exact List.nodup_singleton _
  isDevice := nofun
  isProfile := by
    rw [profileCodes_new]
    intro c hc
    rw [List.mem_singleton.mp hc]
    cases settings.sendOnly <;> rfl
  first := by
    rw [profileCodes_new]
    rfl

lemma Sound.addDevice (hn : n.Sound) (hd : h.code.isProfile = false) :
    Sound { n with objects := n.objects.addDevice h } := by
  have hc : (n.objects.addDevice h).deviceCodes = ObjectCode.enrol n.objects.deviceCodes h.code :=
    NodeObjects.map_code_upsert _ _
  have hm : ∀ c ∈ ObjectCode.enrol n.objects.deviceCodes h.code, c.isProfile = false := by
    intro c hc
    rcases ObjectCode.mem_enrol.mp hc with hc | rfl
    · exact hn.isDevice c hc
    · exact hd
  exact ⟨hc ▸ ObjectCode.nodup_enrol hn.devices _, hn.profiles, hc ▸ hm, hn.isProfile, hn.first⟩

lemma Sound.addProfile (hn : n.Sound) (hp : h.code.isProfile = true) :
    Sound { n with objects := n.objects.addProfile h } := by
  have hc : (n.objects.addProfile h).profileCodes =
      ObjectCode.enrol n.objects.profileCodes h.code := NodeObjects.map_code_upsert _ _
  have hm : ∀ c ∈ ObjectCode.enrol n.objects.profileCodes h.code, c.isProfile = true := by
    intro c hc
    rcases ObjectCode.mem_enrol.mp hc with hc | rfl
    · exact hn.isProfile c hc
    · exact hp
  exact ⟨hn.devices, hc ▸ ObjectCode.nodup_enrol hn.profiles _, hn.isDevice, hc ▸ hm,
    hc ▸ ObjectCode.head?_enrol hn.first _⟩

lemma Sound.add (hn : n.Sound) (a : Addition) : (n.add a).Sound := by
  have ha := n.added a
  rw [LocalNode.add]
  generalize n.add? a = r at ha
  cases ha with
  | @device h _ hd =>
    have hs : Sound { n with objects := n.objects.addDevice (n.adopt h) } := hn.addDevice hd
    exact hs.changed rfl rfl (NodeObjects.profileCodes_refresh _)
  | @profile h _ hp =>
    have hs : Sound { n with objects := n.objects.addProfile (n.adopt h) } := hn.addProfile hp
    exact hs.changed rfl rfl (NodeObjects.profileCodes_refresh _)
  | refused => exact hn

lemma Sound.place (hn : n.Sound) (h : HostedObject) :
    Sound { n with objects := n.objects.add h } := by
  rw [NodeObjects.add]
  split
  case isTrue hp => exact hn.addProfile hp
  case isFalse hd => exact hn.addDevice (Bool.eq_false_iff.mpr hd)

lemma isNodeProfile_nodeProfileCode (n : LocalNode) : n.nodeProfileCode.isNodeProfile = true := by
  rw [nodeProfileCode]
  cases n.settings.sendOnly <;> rfl

lemma Sound.exists_first (hn : n.Sound) : ∃ h rest, n.objects.profiles = h :: rest ∧
    h.code = n.nodeProfileCode ∧ n.objects.nodeProfile? = some h := by
  have hf := hn.first
  cases hp : n.objects.profiles with
  | nil => simp [NodeObjects.profileCodes, hp] at hf
  | cons h rest =>
    rw [NodeObjects.profileCodes, hp, List.map_cons, List.head?_cons] at hf
    have hc : h.code = n.nodeProfileCode := Option.some.inj hf
    refine ⟨h, rest, rfl, hc, NodeObjects.nodeProfile?_of_first hp ?_⟩
    rw [hc]
    exact isNodeProfile_nodeProfileCode n

lemma Sound.nodup (hn : n.Sound) : (n.objects.toList.map (·.code)).Nodup := by
  rw [NodeObjects.toList, List.map_append]
  refine List.nodup_append.mpr ⟨hn.profiles, hn.devices, ?_⟩
  rintro c hc d hd rfl
  have hp := hn.isProfile c hc
  rw [hn.isDevice c hd] at hp
  cases hp

lemma Sound.mem_addDevice (hn : n.Sound) (hd : h.code.isProfile = false) :
    g ∈ (n.objects.addDevice h).toList ↔ g = h ∨ g ∈ n.objects.toList ∧ g.code ≠ h.code := by
  have hne : g ∈ n.objects.profiles → g.code ≠ h.code := by
    intro hg he
    have hp := hn.isProfile g.code (List.mem_map_of_mem hg)
    rw [he, hd] at hp
    cases hp
  rw [NodeObjects.toList, NodeObjects.toList, NodeObjects.addDevice, List.mem_append,
    NodeObjects.mem_upsert hn.devices, List.mem_append]
  tauto

lemma Sound.mem_addProfile (hn : n.Sound) (hp : h.code.isProfile = true) :
    g ∈ (n.objects.addProfile h).toList ↔ g = h ∨ g ∈ n.objects.toList ∧ g.code ≠ h.code := by
  have hne : g ∈ n.objects.devices → g.code ≠ h.code := by
    intro hg he
    have hd := hn.isDevice g.code (List.mem_map_of_mem hg)
    rw [he, hp] at hd
    cases hd
  rw [NodeObjects.toList, NodeObjects.toList, NodeObjects.addProfile, List.mem_append,
    NodeObjects.mem_upsert hn.profiles, List.mem_append]
  tauto

lemma Reached.sound (hn : n.Reached) : n.Sound := by
  induction hn with
  | new settings serial firstTid => exact sound_new settings serial firstTid
  | added a _ ih => exact ih.add a
  | placed h _ ih => exact ih.place h
  | changed _ hs hd hp ih => exact ih.changed hs hd hp

lemma Sound.addAll (hn : n.Sound) (calls : List Addition) : (n.addAll calls).Sound := by
  induction calls generalizing n with
  | nil => exact hn
  | cons a calls ih => exact ih (hn.add a)

end LocalNode

end EchonetLite

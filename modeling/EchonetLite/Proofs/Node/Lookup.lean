import EchonetLite.Proofs.Node.Collections

/-! Looking objects up in a collection to which objects were added one after the other: what stands
where, what an address finds, and that an object can be changed without changing what other
addresses find. -/

namespace EchonetLite

def ObjectCode.inOrder (added : List HostedObject) : List ObjectCode :=
  ((added.map (·.code)).filter isProfile).eraseDups ++
    ((added.map (·.code)).filter (!·.isProfile)).eraseDups

def HostedObject.lastAdded? (added : List HostedObject) (code : ObjectCode) : Option HostedObject :=
  added.findRev? (·.code == code)

def HostedObject.instead (h g : HostedObject) : HostedObject := if g.code = h.code then h else g

namespace NodeObjects

def addAll (added : List HostedObject) : NodeObjects := added.foldl add {}

structure Reflects (n : NodeObjects) (added : List HostedObject) : Prop where
  listed : n.toList.map some = (ObjectCode.inOrder added).map (HostedObject.lastAdded? added)
  distinct : (ObjectCode.inOrder added).Nodup
  complete : ∀ code, code ∈ ObjectCode.inOrder added ↔ ∃ h ∈ added, h.code = code
  found : ∀ code, code.instanceCode ≠ 0 → n.find? code = HostedObject.lastAdded? added code
  foundInClass : ∀ code, code.instanceCode = 0 →
    n.find? code = n.toList.find? (·.code.objectClass == code.objectClass)
  untouched : ∀ code f, n.find? code = none → n.modify code f = n
  changed : ∀ code f h, n.find? code = some h → (f h).code = h.code →
    (n.modify code f).toList = n.toList.map (f h).instead ∧
      ∀ other, (n.modify code f).find? other = (n.find? other).map (f h).instead

variable {n : NodeObjects} {added : List HostedObject} {g h h' : HostedObject} {code : ObjectCode}
  {put : HostedObject → NodeObjects}

lemma addAll_concat (added : List HostedObject) (h : HostedObject) :
    addAll (added ++ [h]) = (addAll added).add h :=
  List.foldl_append

lemma profileCode?_object (h : HostedObject) :
    (Joining.object h).profileCode? = Option.guard ObjectCode.isProfile h.code := rfl

lemma deviceCode?_object (h : HostedObject) :
    (Joining.object h).deviceCode? = Option.guard (fun c => !c.isProfile) h.code := by
  rw [Joining.deviceCode?, Option.guard]
  cases h.code.isProfile <;> rfl

lemma codes_addAll (added : List HostedObject) :
    (addAll added).toList.map (·.code) = ObjectCode.inOrder added := by
  have hjoin : addAll added = joinAll {} (added.map .object) := by
    rw [joinAll, List.foldl_map]
    rfl
  obtain ⟨hd, hp⟩ := codes_joinAll (n := {}) List.nodup_nil List.nodup_nil (added.map .object)
  rw [hjoin, toList, List.map_append, ObjectCode.inOrder, ← List.filterMap_eq_filter,
    ← List.filterMap_eq_filter, List.filterMap_map, List.filterMap_map]
  apply congrArg₂
  · apply hp.trans
    rw [List.filterMap_map]
    exact congrArg (fun code? => (added.filterMap code?).eraseDups) (funext profileCode?_object)
  · apply hd.trans
    rw [List.filterMap_map]
    exact congrArg (fun code? => (added.filterMap code?).eraseDups) (funext deviceCode?_object)

lemma nodup_inOrder (added : List HostedObject) : (ObjectCode.inOrder added).Nodup := by
  rw [ObjectCode.inOrder, List.nodup_append]
  refine ⟨ObjectCode.nodup_eraseDups _, ObjectCode.nodup_eraseDups _, ?_⟩
  rintro c hc d hd rfl
  have hp := (List.mem_filter.mp (List.mem_eraseDups.mp hc)).2
  have hn := (List.mem_filter.mp (List.mem_eraseDups.mp hd)).2
  rw [hp] at hn
  cases hn

lemma mem_inOrder : code ∈ ObjectCode.inOrder added ↔ ∃ h ∈ added, h.code = code := by
  rw [ObjectCode.inOrder, List.mem_append, List.mem_eraseDups, List.mem_eraseDups, List.mem_filter,
    List.mem_filter, ← and_or_left, List.mem_map]
  apply and_iff_left
  cases code.isProfile <;> simp

lemma lastAdded?_concat (added : List HostedObject) (h : HostedObject) (code : ObjectCode) :
    HostedObject.lastAdded? (added ++ [h]) code =
      if h.code = code then some h else HostedObject.lastAdded? added code := by
  rw [HostedObject.lastAdded?, HostedObject.lastAdded?, List.findRev?_eq_find?_reverse,
    List.findRev?_eq_find?_reverse, List.reverse_append, List.reverse_singleton,
    List.singleton_append]
  split
  case isTrue hc => exact List.find?_cons_of_pos (beq_iff_eq.mpr hc)
  case isFalse hc => exact List.find?_cons_of_neg (mt beq_iff_eq.mp hc)

lemma mem_add (hp : n.profileCodes.Nodup) (hd : n.deviceCodes.Nodup) :
    h ∈ (n.add h).toList ∧ ∀ g ∈ (n.add h).toList, g = h ∨ g ∈ n.toList := by
  rw [add]
  split
  · refine ⟨List.mem_append_left _ ((mem_upsert hp).mpr (.inl rfl)), ?_⟩
    intro g hg
    rcases List.mem_append.mp hg with hg | hg
    · exact ((mem_upsert hp).mp hg).imp_right fun hm => List.mem_append_left _ hm.1
    · exact .inr (List.mem_append_right _ hg)
  · refine ⟨List.mem_append_right _ ((mem_upsert hd).mpr (.inl rfl)), ?_⟩
    intro g hg
    rcases List.mem_append.mp hg with hg | hg
    · exact .inr (List.mem_append_left _ hg)
    · exact ((mem_upsert hd).mp hg).imp_right fun hm => List.mem_append_right _ hm.1

lemma nodup_addAll (added : List HostedObject) : ((addAll added).toList.map (·.code)).Nodup := by
  rw [codes_addAll]
  exact nodup_inOrder added

lemma lastAdded?_of_mem (hg : g ∈ (addAll added).toList) :
    HostedObject.lastAdded? added g.code = some g := by
  induction added using List.reverseRecOn with
  | nil => cases hg
  | append_singleton added h ih =>
    have hn := nodup_addAll (added ++ [h])
    have hcodes := nodup_addAll added
    rw [toList, List.map_append, List.nodup_append] at hcodes
    rw [addAll_concat] at hg hn
    obtain ⟨hself, hold⟩ := mem_add (h := h) hcodes.1 hcodes.2.1
    rw [lastAdded?_concat]
    split
    case isTrue hc => rw [List.inj_on_of_nodup_map hn hg hself hc.symm]
    case isFalse hc =>
      rcases hold g hg with rfl | hg'
      · exact absurd rfl hc
      · exact ih hg'

lemma find?_of_instance (hi : code.instanceCode ≠ 0) :
    n.find? code = n.toList.find? (·.code == code) := by
  have hb : (code.instanceCode == 0) = false := beq_eq_false_iff_ne.mpr hi
  simp only [find?, ObjectCode.names, hb, Bool.false_eq_true, if_false]

lemma find?_of_class (hi : code.instanceCode = 0) :
    n.find? code = n.toList.find? (·.code.objectClass == code.objectClass) := by
  have hb : (code.instanceCode == 0) = true := beq_iff_eq.mpr hi
  simp only [find?, ObjectCode.names, hb, if_true]

lemma find?_addAll (hi : code.instanceCode ≠ 0) :
    (addAll added).find? code = HostedObject.lastAdded? added code := by
  rw [find?_of_instance hi]
  cases hf : (addAll added).toList.find? (·.code == code) with
  | some g =>
    obtain rfl : g.code = code := by simpa using List.find?_some hf
    exact (lastAdded?_of_mem (List.mem_of_find?_eq_some hf)).symm
  | none =>
    symm
    rw [HostedObject.lastAdded?, List.findRev?_eq_find?_reverse, List.find?_eq_none]
    intro h hm hc
    have hin : h.code ∈ (addAll added).toList.map (·.code) := by
      rw [codes_addAll]
      exact mem_inOrder.mpr ⟨h, List.mem_reverse.mp hm, rfl⟩
    obtain ⟨g, hg, he⟩ := List.mem_map.mp hin
    exact List.find?_eq_none.mp hf g hg (he ▸ hc)

lemma modifyFirst_of_none {α : Type} {test : α → Bool} (f : α → α) {list : List α}
    (hn : ∀ x ∈ list, test x = false) : modifyFirst test f list = list := by
  induction list with
  | nil => rfl
  | cons x list ih =>
    obtain ⟨hx, hlist⟩ := List.forall_mem_cons.mp hn
    rw [modifyFirst, hx, ih hlist]
    rfl

lemma modify_of_none (f : HostedObject → HostedObject) (hf : n.find? code = none) :
    n.modify code f = n := by
  have hn : ∀ h ∈ n.profiles ++ n.devices, code.names h.code = false := by
    intro h hm
    rw [ObjectCode.names_eq_false_iff]
    exact find?_eq_none_iff.mp hf h hm
  have hp : ¬ (n.profiles.any fun h => code.names h.code) = true := by
    rw [List.any_eq_true]
    rintro ⟨h, hm, hc⟩
    rw [hn h (List.mem_append_left _ hm)] at hc
    cases hc
  rw [modify, if_neg hp, modifyFirst_of_none f fun h hm => hn h (List.mem_append_right _ hm)]

@[simp] lemma code_instead (h g : HostedObject) : (h.instead g).code = g.code := by
  rw [HostedObject.instead]
  split
  case isTrue hc => exact hc.symm
  case isFalse => rfl

lemma map_instead {before after : List HostedObject}
    (hn : ((before ++ h :: after).map (·.code)).Nodup) (hc : h'.code = h.code) :
    (before ++ h :: after).map h'.instead = before ++ h' :: after := by
  rw [List.map_append, List.map_cons, List.nodup_append] at hn
  obtain ⟨_, hafter, hne⟩ := hn
  have hothers : ∀ g ∈ before ++ after, h'.instead g = g := by
    intro g hg
    apply if_neg
    rw [hc]
    rcases List.mem_append.mp hg with hg | hg
    · exact hne g.code (List.mem_map_of_mem hg) h.code List.mem_cons_self
    · exact fun he => (List.nodup_cons.mp hafter).1 (he ▸ List.mem_map_of_mem hg)
  have hself : h'.instead h = h' := if_pos hc.symm
  rw [List.map_append, List.map_cons, hself,
    List.map_congr_left fun g hg => hothers g (List.mem_append_left _ hg),
    List.map_congr_left fun g hg => hothers g (List.mem_append_right _ hg), List.map_id', List.map_id']

lemma toList_put (hn : (n.toList.map (·.code)).Nodup) (ha : n.Addressed code h put)
    (hc : h'.code = h.code) : (put h').toList = n.toList.map h'.instead := by
  cases ha with
  | profile =>
    simp only [toList, List.append_assoc, List.cons_append] at hn ⊢
    exact (map_instead hn hc).symm
  | device =>
    simp only [toList, ← List.append_assoc] at hn ⊢
    exact (map_instead hn hc).symm

lemma find?_put (hn : (n.toList.map (·.code)).Nodup) (ha : n.Addressed code h put)
    (hc : h'.code = h.code) (other : ObjectCode) :
    (put h').find? other = (n.find? other).map h'.instead := by
  rw [find?, toList_put hn ha hc, List.find?_map, find?]
  simp only [Function.comp_def, code_instead]

/-- Of the objects that were added to a collection, one for each code is listed, the one that was
added last, profiles before devices and each where its code came first. An address finds the object
with its code, or the first one of its class; the same one is changed through the address, and every
other object is found as before. -/
theorem addAll_reflects (added : List HostedObject) : (addAll added).Reflects added where
  listed := by
    rw [← codes_addAll, List.map_map]
    apply List.map_congr_left
    intro g hg
    exact (lastAdded?_of_mem hg).symm
  distinct := nodup_inOrder added
  complete _ := mem_inOrder
  found _ hi := find?_addAll hi
  foundInClass _ hi := find?_of_class hi
  untouched _ f hf := modify_of_none f hf
  changed code f h hf hc := by
    obtain ⟨put, ha⟩ := exists_addressed hf
    rw [ha.modify f]
    exact ⟨toList_put (nodup_addAll added) ha hc, find?_put (nodup_addAll added) ha hc⟩

end NodeObjects

end EchonetLite

import EchonetLite.Proofs.Object.Contents

/-! Objects made from templates. An object has the properties of its super class and over them those
of the template that was registered last for its class, each as it was laid down last. -/

namespace EchonetLite

structure Default where
  epc : UInt8
  access : Access
  data : Bytes := []

namespace Default

def last? (ds : List Default) (epc : UInt8) : Option Default := ds.reverse.find? (·.epc == epc)

variable {ds es before after : List Default} {d : Default} {epc : UInt8}

lemma last?_concat (ds : List Default) (d : Default) (epc : UInt8) :
    last? (ds ++ [d]) epc = if d.epc = epc then some d else last? ds epc := by
  by_cases h : d.epc = epc <;> simp [last?, h]

lemma last?_append_of_none (ds : List Default) (h : ∀ e ∈ es, e.epc ≠ epc) :
    last? (ds ++ es) epc = last? ds epc := by
  have hn : es.reverse.find? (·.epc == epc) = none := by simpa using h
  simp [last?, hn]

lemma last?_append_cons (h : ∀ e ∈ after, e.epc ≠ d.epc) :
    last? (before ++ d :: after) d.epc = some d := by
  have hc : before ++ d :: after = (before ++ [d]) ++ after := by simp
  rw [hc, last?_append_of_none _ h, last?_concat, if_pos rfl]

lemma of_last? (h : last? ds epc = some d) : d ∈ ds ∧ d.epc = epc :=
  ⟨List.mem_reverse.mp (List.mem_of_find?_eq_some h), by simpa using List.find?_some h⟩

lemma exists_last? (h : d ∈ ds) : ∃ e, last? ds d.epc = some e := by
  apply Option.isSome_iff_exists.mp
  rw [last?, List.find?_isSome]
  exact ⟨d, List.mem_reverse.mpr h, beq_self_eq_true d.epc⟩

end Default

namespace Object

def commonDefaults : List Default :=
  [⟨0x80, .readAnnounce, [0x30]⟩, ⟨0x8A, .read, [0xFF, 0xFF, 0xFF]⟩,
    ⟨0x9D, .read, []⟩, ⟨0x9E, .read, []⟩, ⟨0x9F, .read, []⟩]

def deviceDefaults : List Default :=
  commonDefaults ++ [⟨0x81, .readWriteAnnounce, [0x00]⟩,
    ⟨0x82, .read, [0x00, 0x00, 0x52, 0x01]⟩, ⟨0x88, .readAnnounce, [0x42]⟩]

def profileDefaults : List Default := commonDefaults ++ [⟨0x88, .read, [0x42]⟩]

def superClass (code : ObjectCode) : List Default :=
  if code.classGroup = 0x0E then profileDefaults else deviceDefaults

structure LaidDown (o : Object) (ds : List Default) : Prop where
  access : ∀ epc, o.access? epc = (Default.last? ds epc).map Default.access
  data : ∀ epc, (∀ k : MapKind, k.epc ≠ epc) →
    o.data? epc = (Default.last? ds epc).map Default.data

variable {o : Object} {ds : List Default} {epc : UInt8}

lemma laidDown_bare (code : ObjectCode) : (bare code).LaidDown [] := ⟨fun _ => rfl, fun _ _ => rfl⟩

lemma LaidDown.place (h : o.LaidDown ds) (d : Default) :
    (o.place d.epc d.access d.data).LaidDown (ds ++ [d]) where
  access epc := by
    rw [access?_place, Default.last?_concat, h.access]
    split <;> rfl
  data epc hk := by
    rw [data?_place, Default.last?_concat, h.data epc hk]
    split <;> rfl

lemma LaidDown.refreshMaps (h : o.LaidDown ds) : o.refreshMaps.LaidDown ds where
  access epc := (access?_refreshMaps o).trans (h.access epc)
  data epc hk := (data?_refreshMaps hk).trans (h.data epc hk)

lemma laidDown_basic (code : ObjectCode) : (basic code).LaidDown commonDefaults := by
  have hs := (laidDown_bare code).place ⟨0x80, .readAnnounce, [0x30]⟩
  have hm := hs.place ⟨0x8A, .read, [0xFF, 0xFF, 0xFF]⟩
  exact (((hm.place ⟨0x9D, .read, []⟩).place ⟨0x9E, .read, []⟩).place ⟨0x9F, .read, []⟩).refreshMaps

lemma laidDown_device (code : ObjectCode) : (device code).LaidDown deviceDefaults := by
  have hl := (laidDown_basic code).place ⟨0x81, .readWriteAnnounce, [0x00]⟩
  have hv := hl.place ⟨0x82, .read, [0x00, 0x00, 0x52, 0x01]⟩
  exact (hv.place ⟨0x88, .readAnnounce, [0x42]⟩).refreshMaps

lemma laidDown_profile (classCode instanceCode : UInt8) :
    (profile classCode instanceCode).LaidDown profileDefaults :=
  ((laidDown_basic _).place ⟨0x88, .read, [0x42]⟩).refreshMaps

def layers (template : List PropertyTemplate) : List Default :=
  (template.filter (Property.lowestCode ≤ ·.epc)).map fun t => { epc := t.epc, access := t.access }

lemma laidDown_plainObject (code : ObjectCode) :
    (Database.plainObject code).LaidDown (superClass code) := by
  rw [Database.plainObject, superClass]
  by_cases hp : code.classGroup = 0x0E
  · have hc : code.isProfile = true := beq_iff_eq.mpr hp
    rw [if_pos hp, if_pos hc]
    exact laidDown_profile _ _
  · have hc : ¬ code.isProfile = true := fun h => hp (beq_iff_eq.mp h)
    rw [if_neg hp, if_neg hc]
    exact laidDown_device code

lemma LaidDown.addTemplateProperty (h : o.LaidDown ds) (t : PropertyTemplate) :
    (Database.addTemplateProperty o t).LaidDown (ds ++ layers [t]) := by
  rw [Database.addTemplateProperty]
  by_cases ht : Property.lowestCode ≤ t.epc
  · have hl : layers [t] = [{ epc := t.epc, access := t.access }] := by simp [layers, ht]
    rw [add_of_le ht, hl]
    exact (h.place { epc := t.epc, access := t.access }).refreshMaps
  · have hl : layers [t] = [] := by simp [layers, ht]
    rw [add_of_lt (UInt8.not_le.mp ht), hl, List.append_nil]
    exact h

lemma LaidDown.template (h : o.LaidDown ds) (template : List PropertyTemplate) :
    (template.foldl Database.addTemplateProperty o).LaidDown (ds ++ layers template) := by
  induction template generalizing o ds with
  | nil => simpa [layers] using h
  | cons t template ih =>
    have hc : layers (t :: template) = layers [t] ++ layers template := by
      simp only [layers, ← List.map_append, ← List.filter_append, List.singleton_append]
    rw [List.foldl_cons, hc, ← List.append_assoc]
    exact ih (h.addTemplateProperty t)

structure Filled (o : Object) (code : ObjectCode) (defaults : List Default)
    (template : List PropertyTemplate) : Prop where
  code : o.code = code
  codes : ∀ epc, epc ∈ o.properties.toList.map Property.epc ↔ epc ∈ defaults.map Default.epc ∨
    Property.lowestCode ≤ epc ∧ epc ∈ template.map PropertyTemplate.epc
  named : ∀ before t after, template = before ++ t :: after → (∀ u ∈ after, u.epc ≠ t.epc) →
    ∀ p ∈ o.properties.toList, p.epc = t.epc →
      p.access = t.access ∧ ((∀ k : MapKind, k.epc ≠ p.epc) → p.data = [])
  inherited : ∀ p ∈ o.properties.toList, (∀ t ∈ template, t.epc ≠ p.epc) →
    ∃ d ∈ defaults, d.epc = p.epc ∧ p.access = d.access ∧
      ((∀ k : MapKind, k.epc ≠ p.epc) → p.data = d.data)
  maps : ∀ k : MapKind, (o.map k).codes = o.codesGranting k ∧
    o.data? k.epc = some (o.map k).encode

lemma mem_codes_iff : epc ∈ o.properties.toList.map Property.epc ↔ ∃ p, o.property? epc = some p := by
  constructor
  · intro h
    obtain ⟨p, hp, rfl⟩ := List.mem_map.mp h
    exact ⟨p, PropertyTable.find?_of_mem hp⟩
  · rintro ⟨p, hp⟩
    exact List.mem_map.mpr ⟨p, List.mem_of_find?_eq_some hp, PropertyTable.epc_of_find? hp⟩

lemma LaidDown.mem_codes_iff (h : o.LaidDown ds) :
    epc ∈ o.properties.toList.map Property.epc ↔ epc ∈ ds.map Default.epc := by
  have ha := h.access epc
  rw [Object.mem_codes_iff, List.mem_map]
  constructor
  · rintro ⟨p, hp⟩
    rw [access?, hp] at ha
    obtain ⟨d, hd, _⟩ := Option.map_eq_some_iff.mp ha.symm
    exact ⟨d, Default.of_last? hd⟩
  · rintro ⟨d, hd, rfl⟩
    obtain ⟨e, he⟩ := Default.exists_last? hd
    rw [he] at ha
    obtain ⟨p, hp, _⟩ := Option.map_eq_some_iff.mp ha
    exact ⟨p, hp⟩

lemma LaidDown.of_last? {d : Default} {p : Property} (h : o.LaidDown ds)
    (hp : p ∈ o.properties.toList) (hd : Default.last? ds p.epc = some d) :
    p.access = d.access ∧ ((∀ k : MapKind, k.epc ≠ p.epc) → p.data = d.data) := by
  have hf : o.property? p.epc = some p := PropertyTable.find?_of_mem hp
  constructor
  · have ha := h.access p.epc
    rw [access?, hf, hd] at ha
    exact Option.some.inj ha
  · intro hk
    have hv := h.data p.epc hk
    rw [data?, hf, hd] at hv
    exact Option.some.inj hv

lemma LaidDown.filled {code : ObjectCode} {defaults : List Default}
    {template : List PropertyTemplate} (h : o.LaidDown (defaults ++ layers template))
    (hc : o.code = code) (hs : o.Settled) (hm : ∀ k : MapKind, k.epc ∈ defaults.map Default.epc) :
    o.Filled code defaults template where
  code := hc
  codes epc := by
    have hl : epc ∈ (layers template).map Default.epc ↔
        Property.lowestCode ≤ epc ∧ epc ∈ template.map PropertyTemplate.epc := by
      simp only [layers, List.map_map, List.mem_map, List.mem_filter, decide_eq_true_eq,
        Function.comp_apply]
      constructor
      · rintro ⟨t, ⟨ht, hlow⟩, rfl⟩
        exact ⟨hlow, t, ht, rfl⟩
      · rintro ⟨hlow, t, ht, rfl⟩
        exact ⟨t, ⟨ht, hlow⟩, rfl⟩
    rw [h.mem_codes_iff, List.map_append, List.mem_append, hl]
  named before t after ht hu p hp he := by
    have hlow : Property.lowestCode ≤ t.epc := he ▸ hs.owned.lowest p hp
    have hl : layers template = layers before ++ ⟨t.epc, t.access, []⟩ :: layers after := by
      simp [layers, ht, hlow]
    have hn : ∀ e ∈ layers after, e.epc ≠ t.epc := by
      intro e hm
      obtain ⟨u, hu', rfl⟩ := List.mem_map.mp hm
      exact hu u (List.mem_filter.mp hu').1
    apply h.of_last? (d := ⟨t.epc, t.access, []⟩) hp
    rw [he, hl, ← List.append_assoc]
    exact Default.last?_append_cons hn
  inherited p hp hn := by
    obtain ⟨d, hd⟩ : ∃ d, Default.last? (defaults ++ layers template) p.epc = some d := by
      have hm := h.mem_codes_iff.mp (List.mem_map_of_mem hp)
      obtain ⟨d, hd, he⟩ := List.mem_map.mp hm
      rw [← he]
      exact Default.exists_last? hd
    have hl : ∀ e ∈ layers template, e.epc ≠ p.epc := by
      intro e he
      obtain ⟨t, ht, rfl⟩ := List.mem_map.mp he
      exact hn t (List.mem_filter.mp ht).1
    have hd' := hd
    rw [Default.last?_append_of_none _ hl] at hd'
    obtain ⟨hmem, hepc⟩ := Default.of_last? hd'
    exact ⟨d, hmem, hepc, h.of_last? hp hd⟩
  maps k := by
    refine ⟨hs.mapped.codes_eq hs.owned k, ?_⟩
    have hk : k.epc ∈ (defaults ++ layers template).map Default.epc := by
      rw [List.map_append]
      exact List.mem_append_left _ (hm k)
    obtain ⟨p, hp⟩ := Object.mem_codes_iff.mp (h.mem_codes_iff.mpr hk)
    rw [data?, hp, Option.map_some, hs.shows k p hp]

end Object

namespace Database

lemma templates_foldl (registered : List ClassTemplate) (db : Database) :
    (registered.foldl addTemplate db).templates = registered.reverse ++ db.templates := by
  induction registered generalizing db with
  | nil => rfl
  | cons t registered ih => simp [ih, addTemplate]

/-- An object of a class is filled from its super class and from the template that was registered
last for the class, whatever else was registered. -/
theorem createObject_fills (manufacturers : List (UInt32 × String))
    (registered : List ClassTemplate) (code : ObjectCode) :
    ((registered.foldl addTemplate { manufacturers }).createObject code).Filled code
      (Object.superClass code)
      (((registered.findRev? (·.objectClass == code.objectClass)).map
        ClassTemplate.properties).getD []) := by
  have hm : ∀ k : MapKind, k.epc ∈ (Object.superClass code).map Default.epc := by
    intro k
    rw [Object.superClass]
    split <;> cases k <;> decide
  have ht : (registered.foldl addTemplate { manufacturers }).template? code.objectClass =
      registered.findRev? (·.objectClass == code.objectClass) := by
    rw [template?, templates_foldl, List.append_nil, List.findRev?_eq_find?_reverse]
  apply Object.LaidDown.filled ?_ (code_createObject _ code) (Object.settled_createObject _ code) hm
  rw [createObject, ht]
  cases registered.findRev? (·.objectClass == code.objectClass) with
  | none => simpa [Object.layers] using Object.laidDown_plainObject code
  | some t => exact (Object.laidDown_plainObject code).template t.properties

example :
    let lamp : ClassTemplate := ⟨⟨0x02, 0x90⟩, "lamp",
      [⟨0xB0, .read, "level"⟩, ⟨0x10, .read, "no property"⟩, ⟨0x80, .write, "status"⟩,
        ⟨0x9F, .announce, "map"⟩, ⟨0xB0, .readWrite, "level"⟩]⟩
    let o := (Database.addTemplate {} lamp).createObject ⟨0x02, 0x90, 0x01⟩
    (o.properties.toList.map fun p => (p.epc, p.data)) =
      [(0x80, []), (0x81, [0x00]), (0x82, [0x00, 0x00, 0x52, 0x01]), (0x88, [0x42]),
        (0x8A, [0xFF, 0xFF, 0xFF]), (0x9D, [3, 0x81, 0x88, 0x9F]), (0x9E, [3, 0x80, 0x81, 0xB0]),
        (0x9F, [7, 0x81, 0x82, 0x88, 0x8A, 0x9D, 0x9E, 0xB0]), (0xB0, [])] := by
  decide +kernel

end Database

end EchonetLite

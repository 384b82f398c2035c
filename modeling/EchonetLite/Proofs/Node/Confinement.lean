import EchonetLite.Proofs.Node.Correspondence
import EchonetLite.Proofs.Node.SelfDescription
import EchonetLite.Proofs.Object.Edits

/-! What messages can do to the objects of a node on which no listener answers. They write data to
properties that can be written, and once a property holds data it keeps its length. -/

namespace EchonetLite

namespace Object

structure Confined (o o' : Object) : Prop where
  attributes : o'.properties.toList.map (fun p => (p.epc, p.access, p.parent)) =
    o.properties.toList.map fun p => (p.epc, p.access, p.parent)
  rest : { o' with properties := o.properties } = o
  unwritable : ∀ epc p, o.property? epc = some p → p.isWritable = false →
    o'.property? epc = some p
  lengths : ∀ epc p, o.property? epc = some p → p.data ≠ [] →
    ∃ p', o'.property? epc = some p' ∧ p'.data.length = p.data.length

variable {o o' o'' : Object} {m : Message}

lemma Confined.refl (o : Object) : o.Confined o where
  attributes := rfl
  rest := rfl
  unwritable _ _ hp _ := hp
  lengths _ p hp _ := ⟨p, hp, rfl⟩

lemma Confined.trans (h : o.Confined o') (h' : o'.Confined o'') : o.Confined o'' where
  attributes := h'.attributes.trans h.attributes
  rest := (congrArg (fun x : Object => { x with properties := o.properties }) h'.rest).trans h.rest
  unwritable epc p hp hw := h'.unwritable epc p (h.unwritable epc p hp hw) hw
  lengths epc p hp hd := by
    obtain ⟨p', hp', hl⟩ := h.lengths epc p hp hd
    have hd' : p'.data ≠ [] := fun he => hd (List.length_eq_zero_iff.mp (by rw [← hl, he]; rfl))
    obtain ⟨p'', hp'', hl'⟩ := h'.lengths epc p' hp' hd'
    exact ⟨p'', hp'', hl'.trans hl⟩

lemma confined_after (ha : ∀ e ∈ m.entries, ¬ o.Refuses m.esv e) : o.Confined (o.after m) := by
  rw [after]
  split
  case isFalse => exact .refl o
  case isTrue hw =>
    have hr := rewritten_storeAll fun e he => exists_property (ha e he)
    refine ⟨hr.attributes, hr.rest, ?_, ?_⟩
    · intro epc p hp hn
      rw [hr.kept epc ?_, hp]
      rintro e he rfl
      obtain ⟨q, hq, hqw⟩ := writable_of_accepted hw (ha e he)
      rw [← Option.some.inj (hp.symm.trans hq), hn] at hqw
      cases hqw
    · intro epc p hp hd
      -- All entries are checked before the first one is written, but none of them changes a length
      -- that the others were checked against.
      rw [property?_storeAll, hp]
      refine ⟨_, rfl, ?_⟩
      cases hl : Entry.lastData? m.entries epc with
      | none => rfl
      | some data =>
        obtain ⟨e, he, rfl, rfl⟩ := Entry.exists_of_lastData? hl
        by_contra hne
        exact ha e he (.mismatch p hp hw (fun h0 => hd (List.length_eq_zero_iff.mp h0))
          (Ne.symm hne))

end Object

structure HostedObject.Confined (h h' : HostedObject) : Prop where
  object : h.object.Confined h'.object
  listener : h'.listener = h.listener

namespace HostedObject

variable {h h' h'' : HostedObject}

lemma Confined.code (hc : h.Confined h') : h'.code = h.code := by
  rw [HostedObject.code, HostedObject.code, ← hc.object.rest]

lemma Confined.refl (h : HostedObject) : h.Confined h := ⟨.refl h.object, rfl⟩

lemma Confined.trans (h₁ : h.Confined h') (h₂ : h'.Confined h'') : h.Confined h'' :=
  ⟨h₁.object.trans h₂.object, h₂.listener.trans h₁.listener⟩

lemma confined_serve (hl : h.listener = none) (m : Message) (out : Outbox) :
    h.Confined { h with object := (Request.serve h m out).object } := by
  rcases Request.serve_object hl m out with ho | ⟨ha, ho⟩
  · rw [ho]
    exact .refl h
  · rw [ho]
    exact ⟨Object.confined_after ha, rfl⟩

end HostedObject

namespace NodeObjects

lemma confined_handle {n : NodeObjects} (quiet : ∀ h ∈ n.toList, h.listener = none) (m : Message)
    (out : Outbox) : n.Corresponds HostedObject.Confined (n.handle m out).objects := by
  rcases n.exists_addressed_or m.deoj with ⟨h, put, ha⟩ | hn
  · rw [handle_addressed ha]
    exact ha.corresponds .refl (HostedObject.confined_serve (quiet h ha.mem) m out)
  · rw [handle_unaddressed hn]
    exact .refl .refl n

end NodeObjects

namespace LocalNode

variable {n : LocalNode}

lemma handleAll_append (n : LocalNode) (before after : List Message) :
    n.handleAll (before ++ after) = (n.handleAll before).handleAll after :=
  List.foldl_append

lemma confined_handleAll (quiet : ∀ h ∈ n.objects.toList, h.listener = none)
    (messages : List Message) :
    n.objects.Corresponds HostedObject.Confined (n.handleAll messages).objects ∧
      { n.handleAll messages with objects := n.objects, outbox := n.outbox } = n := by
  induction messages generalizing n with
  | nil => exact ⟨.refl .refl n.objects, rfl⟩
  | cons m messages ih =>
    have hm := NodeObjects.confined_handle quiet m n.outbox
    obtain ⟨hrest, he⟩ := ih (n := (n.handle m).1) (hm.quiet (fun _ _ h => h.listener) quiet)
    refine ⟨hm.trans (fun _ _ _ => .trans) hrest, ?_⟩
    exact congrArg (fun x : LocalNode => { x with objects := n.objects, outbox := n.outbox }) he

/-- In a run of messages to a node on which no listener answers, from any moment to any later one,
every object stays in its place with its code, its maps, its properties and the access to them; data
changes only where it can be written, and its length only where there was none. -/
theorem handleAll_confined (n : LocalNode) (quiet : ∀ h ∈ n.objects.toList, h.listener = none)
    (before after : List Message) :
    (n.handleAll before).objects.Corresponds HostedObject.Confined
        (n.handleAll (before ++ after)).objects ∧
      { n.handleAll (before ++ after) with objects := n.objects, outbox := n.outbox } = n := by
  obtain ⟨hb, _⟩ := confined_handleAll quiet before
  rw [handleAll_append]
  refine ⟨(confined_handleAll (hb.quiet (fun _ _ h => h.listener) quiet) after).1, ?_⟩
  rw [← handleAll_append]
  exact (confined_handleAll quiet (before ++ after)).2

def dimmer : LocalNode :=
  { settings := {}
    objects :=
      { devices := [{ object := (Object.device ⟨0x02, 0x90, 0x01⟩).edit (.add 0xB0 .readWrite) }] } }

def dim (levels : List Bytes) : Message :=
  { seoj := .controller, deoj := ⟨0x02, 0x90, 0x01⟩, esv := .setC
    entries := levels.map fun data => ⟨0xB0, data⟩ }

theorem handleAll_confined_dimmer :
    (∀ h ∈ dimmer.objects.toList, h.listener = none) ∧
      (dimmer.handleAll [dim [[1, 2, 3], [4]]]).objects.Corresponds HostedObject.Confined
        (dimmer.handleAll [dim [[1, 2, 3], [4]], dim [[5, 6]]]).objects ∧
      ((dimmer.handleAll [dim [[1, 2, 3], [4]], dim [[5, 6]]]).property? ⟨0x02, 0x90, 0x01⟩
        0xB0).map Property.data = some [4] := by
  have quiet : ∀ h ∈ dimmer.objects.toList, h.listener = none := by simp [dimmer, NodeObjects.toList]
  refine ⟨quiet, (handleAll_confined dimmer quiet [dim [[1, 2, 3], [4]]] [dim [[5, 6]]]).1, ?_⟩
  decide +kernel

end LocalNode

end EchonetLite

import EchonetLite.Node.Lifecycle
import EchonetLite.Proofs.Node.SelfDescription
import EchonetLite.Proofs.Object.Edits

/-! What can happen to a node: calls of its owner, messages for objects on which no listener
answers, and the steps in which it starts, sends what it has to announce, and stops. Each operation
is described twice, by what it leaves of the objects and by what it writes to them. -/

namespace EchonetLite

def Object.Edit.entry? : Object.Edit → Option Entry
  | .setData epc data => some ⟨epc, data⟩
  | .setInteger epc value size => some ⟨epc, Property.integerBytes value size⟩
  | _ => none

namespace Object

variable {o : Object} {e : Edit} {entry : Entry}

lemma perform_of_entry? (he : e.entry? = some entry) :
    o.perform e = o.setData entry.epc entry.edt := by
  cases e with
  | setData | setInteger =>
    obtain rfl := Option.some.inj he
    rfl
  | add | addWithData | setAccess | setManufacturer => cases he

lemma edit_of_entry? {p : Property} (he : e.entry? = some entry)
    (hp : o.property? entry.epc = some p) : o.edit e = o.store entry.epc entry.edt := by
  rw [edit, perform_of_entry? he, setData_of_some hp]

end Object

namespace LocalNode

def edit (n : LocalNode) (object : ObjectCode) (e : Object.Edit) : LocalNode :=
  match e.entry? with
  | some entry => (n.setData object entry.epc entry.edt).2
  | none =>
    { n with objects := n.objects.modify object fun h => { h with object := h.object.edit e } }

inductive Operation where
  | add (a : Addition)
  | edit (object : ObjectCode) (e : Object.Edit)
  | setManufacturer (code : UInt32) (serial : Serial)
  | handle (m : Message)
  | issueTid
  | send
  | beginStart
  | failStart
  | completeStart (t : Transport)
  | beginStop
  | dropPending
  | finishStop

def operate (n : LocalNode) : Operation → LocalNode
  | .add a => n.add a
  | .edit object e => n.edit object e
  | .setManufacturer code serial => n.setManufacturer code serial
  | .handle m => (n.handle m).1
  | .issueTid => n.issueTid
  | .send => { n with outbox := { n.outbox with queue := n.outbox.queue.tail } }
  | .beginStart =>
    match n.beginStart with
    | .ok n' => n'
    | .error _ => n
  | .failStart => n.failStart
  | .completeStart t => (n.completeStart t).2
  | .beginStop =>
    match n.beginStop with
    | .ok (some n') => n'
    | _ => n
  | .dropPending => n.dropPending
  | .finishStop => n.finishStop

def operateAll (n : LocalNode) (ops : List Operation) : LocalNode := ops.foldl operate n

def Quiet (n : LocalNode) : Operation → Prop
  | .handle m => ∀ h, n.objects.find? m.deoj = some h → h.listener = none
  | _ => True

def QuietAll : LocalNode → List Operation → Prop
  | _, [] => True
  | n, op :: ops => n.Quiet op ∧ QuietAll (n.operate op) ops

lemma quiet_handle_iff {n : LocalNode} {m : Message} :
    n.Quiet (.handle m) ↔ (n.objects.find? m.deoj).all (·.listener.isNone) = true := by
  rw [Option.all_eq_true]
  exact forall₂_congr fun h _ => Option.isNone_iff_eq_none.symm

instance decidableQuiet (n : LocalNode) : DecidablePred n.Quiet
  | .handle _ => decidable_of_iff _ quiet_handle_iff.symm
  | .add _ | .edit _ _ | .setManufacturer _ _ | .issueTid | .send | .beginStart | .failStart
  | .completeStart _ | .beginStop | .dropPending | .finishStop => .isTrue trivial

instance decidableQuietAll : ∀ (n : LocalNode) (ops : List Operation), Decidable (n.QuietAll ops)
  | _, [] => .isTrue trivial
  | n, op :: ops =>
    have := decidableQuietAll (n.operate op) ops
    inferInstanceAs (Decidable (n.Quiet op ∧ (n.operate op).QuietAll ops))

lemma operate_beginStart (n : LocalNode) :
    n.operate .beginStart = n ∨ n.operate .beginStart = { n with phase := .starting } := by
  rw [operate, beginStart]
  split
  case h_1 hs =>
    split at hs
    · cases hs
    · split at hs
      · exact .inr (Except.ok.inj hs).symm
      · cases hs
  case h_2 => exact .inl rfl

lemma operate_beginStop (n : LocalNode) : n.operate .beginStop = n ∨
    n.operate .beginStop =
      { n with
        phase := .stopping
        transport := none
        outbox := { n.outbox with running := false } } := by
  rw [operate, beginStop]
  split
  case h_1 hs =>
    split at hs
    · cases hs
    · exact .inr (Option.some.inj (Except.ok.inj hs)).symm
    · cases hs
  case h_2 => exact .inl rfl

end LocalNode

namespace NodeObjects

variable {n : NodeObjects} {g h : HostedObject}

lemma mem_modifyFirst {α : Type} {test : α → Bool} {f : α → α} {x : α} {list : List α}
    (hx : x ∈ modifyFirst test f list) : x ∈ list ∨ ∃ y ∈ list, x = f y := by
  induction list with
  | nil => exact .inl hx
  | cons y list ih =>
    rw [modifyFirst] at hx
    split at hx
    · rcases List.mem_cons.mp hx with rfl | hx
      · exact .inr ⟨y, List.mem_cons_self, rfl⟩
      · exact .inl (List.mem_cons_of_mem y hx)
    · rcases List.mem_cons.mp hx with rfl | hx
      · exact .inl List.mem_cons_self
      · refine (ih hx).imp (List.mem_cons_of_mem y) ?_
        rintro ⟨z, hz, he⟩
        exact ⟨z, List.mem_cons_of_mem y hz, he⟩

lemma mem_modify {code : ObjectCode} {f : HostedObject → HostedObject}
    (hg : g ∈ (n.modify code f).toList) : g ∈ n.toList ∨ ∃ h ∈ n.toList, g = f h := by
  rw [modify] at hg
  simp only [toList, List.mem_append]
  split at hg
  · rcases List.mem_append.mp hg with hg | hg
    · refine (mem_modifyFirst hg).imp .inl ?_
      rintro ⟨h, hh, he⟩
      exact ⟨h, .inl hh, he⟩
    · exact .inl (.inr hg)
  · rcases List.mem_append.mp hg with hg | hg
    · exact .inl (.inl hg)
    · refine (mem_modifyFirst hg).imp .inr ?_
      rintro ⟨h, hh, he⟩
      exact ⟨h, .inr hh, he⟩

lemma mem_modifyNodeProfile {f : Object → Object} (hg : g ∈ (n.modifyNodeProfile f).toList) :
    g ∈ n.toList ∨ ∃ h ∈ n.toList, g.object = f h.object := by
  simp only [toList, List.mem_append]
  rcases List.mem_append.mp hg with hg | hg
  · refine (mem_modifyFirst hg).imp .inl ?_
    rintro ⟨h, hh, rfl⟩
    exact ⟨h, .inl hh, rfl⟩
  · exact .inl (.inr hg)

lemma mem_of_mem_upsert {list : List HostedObject} (hg : g ∈ upsert list h) : g = h ∨ g ∈ list := by
  rw [upsert] at hg
  split at hg
  · rcases mem_modifyFirst hg with hg | ⟨_, _, rfl⟩
    · exact .inr hg
    · exact .inl rfl
  · rcases List.mem_append.mp hg with hg | hg
    · exact .inr hg
    · exact .inl (List.mem_singleton.mp hg)

end NodeObjects

namespace LocalNode

inductive Leaves (n : LocalNode) (op : Operation) : Object → Prop
  | held {h : HostedObject} : h ∈ n.objects.toList → Leaves n op h.object
  | adopted {a : Addition} {h : HostedObject} : op = .add a → a.object? = some h →
      Leaves n op (n.adopt h).object
  | described {o : Object} (devices : List ObjectCode) : Leaves n op o →
      Leaves n op (o.describeDevices devices)
  | edited {object : ObjectCode} {e : Object.Edit} {o : Object} : op = .edit object e →
      Leaves n op o → Leaves n op (o.edit e)
  | stamped {o : Object} (code : UInt32) : Leaves n op o → Leaves n op (o.setManufacturer code)
  | identified {o : Object} (code : UInt32) (serial : Serial) : Leaves n op o →
      Leaves n op (o.store Epc.identification (Object.identification code serial))
  | written {m : Message} {o : Object} : op = .handle m → Leaves n op o →
      Leaves n op (o.storeAll (Request.written o m))

variable {n : LocalNode} {op : Operation} {object : ObjectCode} {e : Object.Edit} {m : Message}

lemma leaves_refresh {objects : NodeObjects} (h : ∀ g ∈ objects.toList, n.Leaves op g.object) :
    ∀ g ∈ objects.refreshNodeProfile.toList, n.Leaves op g.object := by
  intro g hg
  rcases NodeObjects.mem_modifyNodeProfile hg with hg | ⟨g', hg', he⟩
  · exact h g hg
  · rw [he]
    exact .described _ (h g' hg')

lemma leaves_add (n : LocalNode) (a : Addition) :
    ∀ g ∈ (n.add a).objects.toList, n.Leaves (.add a) g.object := by
  have ha := n.added a
  rw [add]
  generalize n.add? a = r at ha
  cases ha with
  | device ho =>
    apply leaves_refresh
    intro g hg
    rcases List.mem_append.mp hg with hg | hg
    · exact .held (List.mem_append_left _ hg)
    · rcases NodeObjects.mem_of_mem_upsert hg with rfl | hg
      · exact .adopted rfl ho
      · exact .held (List.mem_append_right _ hg)
  | profile ho =>
    apply leaves_refresh
    intro g hg
    rcases List.mem_append.mp hg with hg | hg
    · rcases NodeObjects.mem_of_mem_upsert hg with rfl | hg
      · exact .adopted rfl ho
      · exact .held (List.mem_append_left _ hg)
    · exact .held (List.mem_append_right _ hg)
  | refused => exact fun g hg => .held hg

inductive EditedObject (n : LocalNode) (object : ObjectCode) (e : Object.Edit) : LocalNode → Prop
  | silent : e.entry? = none → EditedObject n object e
      { n with objects := n.objects.modify object fun h => { h with object := h.object.edit e } }
  | failed : (∀ h entry, n.objects.find? object = some h → e.entry? = some entry →
      h.object.property? entry.epc = none) → EditedObject n object e n
  | stored {h : HostedObject} {entry : Entry} {p : Property} : n.objects.find? object = some h →
      e.entry? = some entry → h.object.property? entry.epc = some p → EditedObject n object e
        { n with
          objects := n.objects.modify object fun g => { g with object := h.object.edit e }
          outbox := h.object.announce entry n.outbox }

lemma editedObject (n : LocalNode) (object : ObjectCode) (e : Object.Edit) :
    n.EditedObject object e (n.edit object e) := by
  rw [edit]
  cases he : e.entry? with
  | none => exact .silent he
  | some entry =>
    dsimp only
    rw [setData]
    cases hf : n.objects.find? object with
    | none =>
      apply EditedObject.failed
      intro h _ hh _
      rw [hf] at hh
      cases hh
    | some h =>
      dsimp only
      cases hp : h.object.property? entry.epc with
      | none =>
        rw [Object.write_of_none hp, NodeObjects.modify_object hf]
        apply EditedObject.failed
        intro h' entry' hh he'
        rw [← Option.some.inj (hf.symm.trans hh), ← Option.some.inj (he.symm.trans he'), hp]
      | some p =>
        rw [Object.write_eq hp, ← Object.edit_of_entry? he hp]
        exact .stored hf he hp

lemma leaves_edit (n : LocalNode) (object : ObjectCode) (e : Object.Edit) :
    ∀ g ∈ (n.edit object e).objects.toList, n.Leaves (.edit object e) g.object := by
  intro g hg
  have he := n.editedObject object e
  generalize n.edit object e = n' at he hg
  cases he with
  | silent =>
    rcases NodeObjects.mem_modify hg with hg | ⟨h, hh, rfl⟩
    · exact .held hg
    · exact .edited rfl (.held hh)
  | failed => exact .held hg
  | stored hf =>
    rcases NodeObjects.mem_modify hg with hg | ⟨_, _, rfl⟩
    · exact .held hg
    · exact .edited rfl (.held (List.mem_of_find?_eq_some hf))

lemma leaves_setManufacturer (n : LocalNode) (code : UInt32) (serial : Serial) :
    ∀ g ∈ (n.setManufacturer code serial).objects.toList,
      n.Leaves (.setManufacturer code serial) g.object := by
  have hs : ∀ g ∈ (n.objects.map fun h =>
      { h with object := h.object.setManufacturer code }).toList,
        n.Leaves (.setManufacturer code serial) g.object := by
    intro g hg
    rw [NodeObjects.toList, NodeObjects.map, ← List.map_append] at hg
    obtain ⟨h, hh, rfl⟩ := List.mem_map.mp hg
    exact .stamped code (.held hh)
  intro g hg
  rcases NodeObjects.mem_modifyNodeProfile hg with hg | ⟨g', hg', he⟩
  · exact hs g hg
  · rw [he]
    exact .identified code serial (hs g' hg')

lemma leaves_handle (hq : n.Quiet (.handle m)) :
    ∀ g ∈ (n.handle m).1.objects.toList, n.Leaves (.handle m) g.object := by
  intro g hg
  rcases n.objects.exists_addressed_or m.deoj with ⟨h, put, ha⟩ | hn
  · simp only [handle, NodeObjects.handle, ha.find?] at hg
    rcases NodeObjects.mem_modify hg with hg | ⟨_, _, rfl⟩
    · exact .held hg
    · rw [(Request.serve_written (hq h ha.find?) m n.outbox).1]
      exact .written rfl (.held ha.mem)
  · simp only [handle, NodeObjects.handle_unaddressed hn] at hg
    exact .held hg

lemma leaves_operate (hq : n.Quiet op) :
    ∀ g ∈ (n.operate op).objects.toList, n.Leaves op g.object := by
  cases op with
  | add a => exact leaves_add n a
  | edit object e => exact leaves_edit n object e
  | setManufacturer code serial => exact leaves_setManufacturer n code serial
  | handle m => exact leaves_handle hq
  | beginStart =>
    rcases n.operate_beginStart with hs | hs <;> rw [hs] <;> exact fun g hg => .held hg
  | beginStop =>
    rcases n.operate_beginStop with hs | hs <;> rw [hs] <;> exact fun g hg => .held hg
  | issueTid | send | failStart | completeStart | dropPending | finishStop =>
    exact fun g hg => .held hg

end LocalNode

end EchonetLite

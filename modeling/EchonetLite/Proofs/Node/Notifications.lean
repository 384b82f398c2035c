import EchonetLite.Proofs.Node.Announcements
import EchonetLite.Proofs.Node.Operations

/-! The account of what a node announces. While the node runs, every change of an announceable
property is queued as one notification with the next transaction identifier; nothing else is queued,
and nothing else takes an identifier but a start and whoever asks for one. -/

namespace EchonetLite

structure Change where
  object : Object
  entry : Entry

namespace Change

def announceable (x : Change) : Bool :=
  (x.object.property? x.entry.epc).any Property.isAnnounceable

def notification (c : TransactionCounter) (x : Change) : Message :=
  { tid := c.last + 1, seoj := x.object.code, deoj := .nodeProfile, esv := .inf,
    entries := [x.entry] }

def notifications (c : TransactionCounter) : List Change → List Message
  | [] => []
  | x :: xs => x.notification c :: notifications c.advance xs

def isDue (x : Change) : Bool := x.object.attached && x.announceable

def announceAll (xs : List Change) (out : Outbox) : Outbox :=
  xs.foldl (fun out x => x.object.announce x.entry out) out

lemma length_notifications (c : TransactionCounter) (xs : List Change) :
    (notifications c xs).length = xs.length := by
  induction xs generalizing c with
  | nil => rfl
  | cons x xs ih => exact congrArg (· + 1) (ih c.advance)

lemma entries_notifications {c : TransactionCounter} {xs : List Change} {a : Message}
    (ha : a ∈ notifications c xs) : ∃ x ∈ xs, a.entries = [x.entry] := by
  induction xs generalizing c with
  | nil => cases ha
  | cons x xs ih =>
    rcases List.mem_cons.mp ha with rfl | ha
    · exact ⟨x, List.mem_cons_self, rfl⟩
    · obtain ⟨y, hy, he⟩ := ih ha
      exact ⟨y, List.mem_cons_of_mem x hy, he⟩

variable {out : Outbox} {x : Change}

lemma announce_due (hr : out.running = true) (hd : x.isDue = true) :
    x.object.announce x.entry out =
      { out with counter := out.counter.advance
                 queue := out.queue ++ [x.notification out.counter] } := by
  rw [Object.announce, Outbox.announce, if_pos hr]
  exact if_pos hd

lemma announce_idle (h : out.running = false ∨ x.isDue = false) :
    x.object.announce x.entry out = out := by
  rw [Object.announce, Outbox.announce]
  rcases h with hr | hd
  · rw [hr, if_neg Bool.false_ne_true, ite_self]
  · exact if_neg (Bool.eq_false_iff.mp hd)

lemma announceAll_stopped (hr : out.running = false) (xs : List Change) :
    announceAll xs out = out := by
  induction xs with
  | nil => rfl
  | cons x xs ih =>
    change announceAll xs (x.object.announce x.entry out) = out
    rw [announce_idle (.inl hr), ih]

lemma announceAll_running (hr : out.running = true) (xs : List Change) :
    announceAll xs out =
      { out with
        counter := out.counter.advanceBy (xs.filter isDue).length
        queue := out.queue ++ notifications out.counter (xs.filter isDue) } := by
  induction xs generalizing out with
  | nil =>
    rw [List.filter_nil, notifications, List.append_nil]
    rfl
  | cons x xs ih =>
    change announceAll xs (x.object.announce x.entry out) = _
    cases hd : x.isDue with
    | true =>
      have hc : out.counter.advance.advanceBy (xs.filter isDue).length =
          out.counter.advanceBy ((xs.filter isDue).length + 1) := by
        rw [Nat.add_comm, ← TransactionCounter.advanceBy_add]
        rfl
      rw [announce_due hr hd, ih, List.filter_cons_of_pos hd, List.length_cons, ← hc, notifications,
        List.append_assoc]
      · rfl
      · exact hr
    | false =>
      rw [announce_idle (.inr hd), ih hr, List.filter_cons_of_neg (Bool.eq_false_iff.mp hd)]

lemma announceAll_eq (xs : List Change) (out : Outbox) :
    announceAll xs out =
      { out with
        counter := out.counter.advanceBy (if out.running then xs.filter isDue else []).length
        queue := out.queue ++
          notifications out.counter (if out.running then xs.filter isDue else []) } := by
  cases hr : out.running with
  | true => rw [announceAll_running hr, if_pos rfl, hr]
  | false =>
    rw [announceAll_stopped hr, if_neg Bool.false_ne_true, notifications, List.append_nil, ← hr]
    rfl

end Change

namespace Object

def changes (o : Object) : List Entry → List Change
  | [] => []
  | e :: es => ⟨o, e⟩ :: (o.store e.epc e.edt).changes es

lemma announceAll_changes (o : Object) (es : List Entry) (out : Outbox) :
    Change.announceAll (o.changes es) out = es.foldl (fun out e => o.announce e out) out := by
  induction es generalizing o out with
  | nil => rfl
  | cons e es ih =>
    have hs := ih (o.store e.epc e.edt) (o.announce e out)
    simp only [announce_store] at hs
    exact hs

lemma attached_changes {o : Object} (ha : o.attached = true) (es : List Entry) :
    ∀ x ∈ o.changes es, x.object.attached = true := by
  induction es generalizing o with
  | nil => nofun
  | cons e es ih => exact List.forall_mem_cons.mpr ⟨ha, ih (o := o.store e.epc e.edt) ha⟩

lemma mem_entries_changes {o : Object} {es : List Entry} {x : Change} (hx : x ∈ o.changes es) :
    x.entry ∈ es := by
  induction es generalizing o with
  | nil => cases hx
  | cons e es ih =>
    rcases List.mem_cons.mp hx with rfl | hx
    · exact List.mem_cons_self
    · exact List.mem_cons_of_mem e (ih hx)

lemma attached_edit (o : Object) (e : Edit) : (o.edit e).attached = o.attached := by
  have h := o.edited e
  generalize o.edit e = o' at h
  cases h <;> rfl

end Object

namespace LocalNode

def Operation.addressee? : Operation → Option ObjectCode
  | .edit object _ => some object
  | .handle m => some m.deoj
  | _ => none

def Operation.written (o : Object) : Operation → List Entry
  | .edit _ e => e.entry?.toList.filter fun entry => (o.property? entry.epc).isSome
  | .handle m => Request.written o m
  | _ => []

def changes (n : LocalNode) (op : Operation) : List Change :=
  match op.addressee?.bind n.objects.find? with
  | some h => h.object.changes (op.written h.object)
  | none => []

def notable (n : LocalNode) (op : Operation) : List Change :=
  if n.isRunning then (n.changes op).filter Change.announceable else []

def announced : LocalNode → List Operation → List Message
  | _, [] => []
  | n, op :: ops =>
    Change.notifications n.outbox.counter (n.notable op) ++ announced (n.operate op) ops

def takenBy (n : LocalNode) : Operation → List Message
  | .send => n.outbox.queue.take 1
  | .finishStop => n.outbox.queue
  | _ => []

def taken : LocalNode → List Operation → List Message
  | _, [] => []
  | n, op :: ops => n.takenBy op ++ taken (n.operate op) ops

def Operation.takesTid : Operation → Bool
  | .issueTid => true
  | .completeStart _ => true
  | _ => false

def due (n : LocalNode) (op : Operation) : List Change :=
  if n.isRunning then (n.changes op).filter Change.isDue else []

variable {n : LocalNode} {op : Operation} {object : ObjectCode} {e : Object.Edit} {m : Message}

lemma outbox_edit (n : LocalNode) (object : ObjectCode) (e : Object.Edit) :
    (n.edit object e).outbox = Change.announceAll (n.changes (.edit object e)) n.outbox := by
  have he := n.editedObject object e
  rw [changes, Operation.addressee?, Option.bind_some]
  generalize n.edit object e = n' at he
  cases he with
  | silent hs =>
    simp only [Operation.written, hs]
    cases n.objects.find? object <;> rfl
  | failed hn =>
    cases hf : n.objects.find? object with
    | none => rfl
    | some h =>
      cases hs : e.entry? with
      | none =>
        simp only [Operation.written, hs]
        rfl
      | some entry =>
        have hp := hn h entry hf hs
        simp only [Operation.written, hs, Option.toList_some, List.filter_cons, hp,
          Option.isSome_none, List.filter_nil]
        rfl
  | stored hf hs hp =>
    rw [hf]
    simp only [Operation.written, hs, Option.toList_some, List.filter_cons, hp, Option.isSome_some,
      List.filter_nil]
    rfl

lemma outbox_handle (hq : n.Quiet (.handle m)) :
    (n.handle m).1.outbox = Change.announceAll (n.changes (.handle m)) n.outbox := by
  rw [changes, Operation.addressee?, Option.bind_some]
  rcases n.objects.exists_addressed_or m.deoj with ⟨h, put, ha⟩ | hn
  · simp only [handle, NodeObjects.handle_addressed ha]
    rw [ha.find?, (Request.serve_written (hq h ha.find?) m n.outbox).2]
    exact (Object.announceAll_changes h.object _ n.outbox).symm
  · rw [NodeObjects.find?_eq_none_iff.mpr hn]
    simp only [handle, NodeObjects.handle_unaddressed hn]
    rfl

structure Accounted (n : LocalNode) (op : Operation) (xs : List Change) : Prop where
  queue : n.takenBy op ++ (n.operate op).outbox.queue =
    n.outbox.queue ++ Change.notifications n.outbox.counter xs
  counter : (n.operate op).outbox.counter =
    n.outbox.counter.advanceBy (xs.length + op.takesTid.toNat)

lemma accounted_of_changes (ho : (n.operate op).outbox = Change.announceAll (n.changes op) n.outbox)
    (ht : n.takenBy op = []) (hi : op.takesTid = false) : n.Accounted op (n.due op) where
  queue := by
    rw [ht, ho, Change.announceAll_eq]
    rfl
  counter := by
    rw [hi, ho, Change.announceAll_eq]
    rfl

lemma accounted_of_none (hc : n.changes op = [])
    (hq : n.takenBy op ++ (n.operate op).outbox.queue = n.outbox.queue)
    (hi : (n.operate op).outbox.counter = n.outbox.counter.advanceBy op.takesTid.toNat) :
    n.Accounted op (n.due op) := by
  rw [due, hc, List.filter_nil, ite_self]
  refine ⟨?_, ?_⟩
  · rw [hq, Change.notifications, List.append_nil]
  · rw [hi, List.length_nil, Nat.zero_add]

lemma outbox_add (n : LocalNode) (a : Addition) : (n.add a).outbox = n.outbox := by
  have ha := n.added a
  rw [add]
  generalize n.add? a = r at ha
  cases ha <;> rfl

lemma accounted_operate (hq : n.Quiet op) : n.Accounted op (n.due op) := by
  cases op with
  | edit object e => exact accounted_of_changes (outbox_edit n object e) rfl rfl
  | handle m => exact accounted_of_changes (outbox_handle hq) rfl rfl
  | add a =>
    have ho : (n.operate (.add a)).outbox = n.outbox := outbox_add n a
    exact accounted_of_none rfl (congrArg Outbox.queue ho) (congrArg Outbox.counter ho)
  | beginStart =>
    have ho : (n.operate .beginStart).outbox = n.outbox := by
      rcases n.operate_beginStart with hs | hs <;> rw [hs]
    exact accounted_of_none rfl (congrArg Outbox.queue ho) (congrArg Outbox.counter ho)
  | beginStop =>
    rcases n.operate_beginStop with hs | hs
    · exact accounted_of_none rfl (congrArg (·.outbox.queue) hs) (congrArg (·.outbox.counter) hs)
    · exact accounted_of_none rfl (congrArg (·.outbox.queue) hs) (congrArg (·.outbox.counter) hs)
  | send =>
    refine accounted_of_none rfl ?_ rfl
    rw [operate, ← List.drop_one]
    exact List.take_append_drop 1 n.outbox.queue
  | finishStop => exact accounted_of_none rfl (List.append_nil _) rfl
  | setManufacturer | issueTid | failStart | completeStart | dropPending =>
    exact accounted_of_none rfl rfl rfl

def Attached (n : LocalNode) : Prop := ∀ h ∈ n.objects.toList, h.object.attached = true

lemma attached_new (settings : NodeSettings) (serial : Serial) (firstTid : UInt16) :
    (new settings serial firstTid).Attached := by
  intro h hh
  obtain rfl := List.mem_singleton.mp hh
  rfl

lemma Leaves.attached {o : Object} (ha : n.Attached) (hl : n.Leaves op o) : o.attached = true := by
  induction hl with
  | held hh => exact ha _ hh
  | adopted => rfl
  | described _ _ ih | stamped _ _ ih | identified _ _ _ ih => exact ih
  | edited _ _ ih => rw [Object.attached_edit, ih]
  | written _ _ ih => rw [Object.storeAll_eq, ih]

lemma Attached.operate (ha : n.Attached) (hq : n.Quiet op) : (n.operate op).Attached :=
  fun h hh => (leaves_operate hq h hh).attached ha

lemma Attached.due_eq (ha : n.Attached) (op : Operation) : n.due op = n.notable op := by
  have hx : ∀ x ∈ n.changes op, x.isDue = x.announceable := by
    intro x hx
    rw [changes] at hx
    split at hx
    case h_1 h hf =>
      obtain ⟨c, _, hc⟩ := Option.bind_eq_some_iff.mp hf
      have ht := Object.attached_changes (ha h (List.mem_of_find?_eq_some hc)) _ x hx
      rw [Change.isDue, ht, Bool.true_and]
    case h_2 => cases hx
  rw [due, notable, List.filter_congr hx]

lemma Attached.accounted (ha : n.Attached) {ops : List Operation} (hq : n.QuietAll ops) :
    n.taken ops ++ (n.operateAll ops).outbox.queue = n.outbox.queue ++ n.announced ops ∧
      (n.operateAll ops).outbox.counter =
        n.outbox.counter.advanceBy ((n.announced ops).length + ops.countP Operation.takesTid) := by
  induction ops generalizing n with
  | nil => exact ⟨(List.append_nil n.outbox.queue).symm, rfl⟩
  | cons op ops ih =>
    obtain ⟨hop, hops⟩ := hq
    obtain ⟨hqueue, hcounter⟩ := ih (ha.operate hop) hops
    have hs := accounted_operate hop
    rw [ha.due_eq op] at hs
    constructor
    · calc n.taken (op :: ops) ++ ((n.operate op).operateAll ops).outbox.queue
          = n.takenBy op ++
              ((n.operate op).taken ops ++ ((n.operate op).operateAll ops).outbox.queue) := by
            rw [taken, List.append_assoc]
        _ = n.takenBy op ++ (n.operate op).outbox.queue ++ (n.operate op).announced ops := by
            rw [hqueue, List.append_assoc]
        _ = n.outbox.queue ++ n.announced (op :: ops) := by
            rw [hs.queue, announced, List.append_assoc]
    · have hn : (n.announced (op :: ops)).length =
          (n.notable op).length + ((n.operate op).announced ops).length := by
        rw [announced, List.length_append, Change.length_notifications]
      change ((n.operate op).operateAll ops).outbox.counter = _
      have ht : (if op.takesTid = true then 1 else 0) = op.takesTid.toNat := by
        cases op.takesTid <;> rfl
      rw [hcounter, hs.counter, TransactionCounter.advanceBy_add, hn, List.countP_cons, ht]
      congr 1
      omega

/-- Over any run of a new node, what waits to be announced, together with what has been sent or
discarded before, is one notification for each change of an announceable property that a call of the
owner or an accepted message made while the node ran, in the order of the changes. Identifiers are
taken for these, for the notification of each start, and for whoever asks for one. -/
theorem announces_changes (settings : NodeSettings) (serial : Serial) (firstTid : UInt16)
    (ops : List Operation) (hq : (new settings serial firstTid).QuietAll ops) :
    (new settings serial firstTid).taken ops ++
        ((new settings serial firstTid).operateAll ops).outbox.queue =
      (new settings serial firstTid).announced ops ∧
    ((new settings serial firstTid).operateAll ops).outbox.counter =
      (new settings serial firstTid).outbox.counter.advanceBy
        (((new settings serial firstTid).announced ops).length + ops.countP Operation.takesTid) := by
  obtain ⟨hqueue, hcounter⟩ := (attached_new settings serial firstTid).accounted hq
  exact ⟨hqueue, hcounter⟩

def evening : List Operation :=
  [.add (.device { object := .device ⟨0x02, 0x90, 0x01⟩ }),
    .edit ⟨0x02, 0x90, 0x01⟩ (.setData Epc.operationStatus [0x31]),
    .beginStart, .completeStart { settings := {} },
    .edit ⟨0x02, 0x90, 0x01⟩ (.setInteger Epc.operationStatus 0x30 1),
    .handle
      { seoj := .controller, deoj := ⟨0x02, 0x90, 0x01⟩, esv := .setC,
        entries := [⟨0x81, [0x08]⟩, ⟨0x81, [0x10]⟩] },
    .send,
    .edit ⟨0x02, 0x90, 0x01⟩ (.add 0xB0 .readWrite),
    .edit ⟨0x02, 0x90, 0x01⟩ (.setData 0xB0 [0x32]),
    .edit ⟨0x02, 0x90, 0x01⟩ (.setAccess 0xB0 .readWriteAnnounce),
    .edit ⟨0x02, 0x90, 0x01⟩ (.setData 0xB0 [0x64]),
    .handle
      { seoj := .controller, deoj := ⟨0x02, 0x90, 0x01⟩, esv := .setC,
        entries := [⟨0xB0, [0x00]⟩, ⟨0x80, [0x31]⟩] },
    .setManufacturer 0x000B (.replicate 13 0),
    .beginStop,
    .edit ⟨0x02, 0x90, 0x01⟩ (.setData 0xB0 [0x00])]

theorem announces_changes_evening :
    (new {} (.replicate 13 0) 0).QuietAll evening ∧
      (new {} (.replicate 13 0) 0).taken evening ++
          ((new {} (.replicate 13 0) 0).operateAll evening).outbox.queue =
        [⟨2, ⟨0x02, 0x90, 0x01⟩, .nodeProfile, .inf, [⟨0x80, [0x30]⟩]⟩,
          ⟨3, ⟨0x02, 0x90, 0x01⟩, .nodeProfile, .inf, [⟨0x81, [0x08]⟩]⟩,
          ⟨4, ⟨0x02, 0x90, 0x01⟩, .nodeProfile, .inf, [⟨0x81, [0x10]⟩]⟩,
          ⟨5, ⟨0x02, 0x90, 0x01⟩, .nodeProfile, .inf, [⟨0xB0, [0x64]⟩]⟩] := by
  have hq : (new {} (.replicate 13 0) 0).QuietAll evening := by decide +kernel
  refine ⟨hq, ?_⟩
  rw [(announces_changes {} (.replicate 13 0) 0 evening hq).1]
  decide +kernel

end LocalNode

end EchonetLite

import EchonetLite.Proofs.Node.Notifications
import EchonetLite.Proofs.Object.Sizes

/-! What a node says has a frame. As long as no property holds more data than an entry can carry,
answers, announcements and the notification of the devices can be written, and nothing that happens
to the node brings in more, unless its owner does. -/

namespace EchonetLite

def Message.Encodes (m : Message) : Prop := ∃ frame, m.encode = .ok frame

namespace Message

variable {m a : Message}

lemma Fits.encodes (h : m.Fits) : m.Encodes := ⟨m.wire, encode_eq_ok_iff.mpr ⟨h, rfl⟩⟩

lemma fits_of_decode {bytes : Bytes} (h : Message.decode bytes = .ok m) : m.Fits :=
  (decode_eq_ok_iff.mp h).1

lemma fits_of_singleton {e : Entry} (ha : a.entries = [e]) (he : e.Fits) : a.Fits where
  entries := by
    rw [opc, ha, List.length_singleton]
    decide
  data := by
    rw [ha]
    exact List.forall_mem_singleton.mpr he

lemma Fits.of_map (h : m.Fits) {f : Entry → Entry} (ha : a.entries = m.entries.map f)
    (hf : ∀ e ∈ m.entries, (f e).Fits) : a.Fits where
  entries := by
    rw [opc, ha, List.length_map]
    exact h.entries
  data := by
    rw [ha]
    exact List.forall_mem_map.mpr hf

end Message

namespace Object

variable {o : Object} {m : Message}

lemma Fits.withAttached (h : o.Fits) (attached : Bool) : Fits { o with attached } := h

lemma Fits.length_data (h : o.Fits) {epc : UInt8} {p : Property} (hp : o.property? epc = some p) :
    p.data.length ≤ Frame.byteLimit :=
  h p (List.mem_of_find?_eq_some hp)

lemma Fits.length_getD (h : o.Fits) (epc : UInt8) :
    ((o.data? epc).getD []).length ≤ Frame.byteLimit := by
  rw [data?]
  cases hp : o.property? epc with
  | none => exact Nat.zero_le _
  | some p => exact h.length_data hp

lemma Fits.after (h : o.Fits) (hm : m.Fits) : (o.after m).Fits := by
  rw [Object.after]
  split
  · exact h.storeAll hm.data
  · exact h

end Object

namespace Request

variable {o : Object} {h : HostedObject} {m a : Message}

lemma fits_written (hm : m.Fits) (o : Object) : ∀ e ∈ written o m, e.Fits := by
  rw [written]
  split
  · exact hm.data
  · exact List.forall_mem_nil _

lemma fits_acknowledgement (hm : m.Fits) (o : Object) : (acknowledgement o m).Fits :=
  hm.of_map rfl fun _ _ => Nat.zero_le _

lemma fits_refusedEntry (ho : o.Fits) (s : Service) {e : Entry} (he : e.Fits) :
    (refusedEntry o s e).Fits := by
  rw [refusedEntry]
  split
  · exact he
  · split
    case h_1 p hp =>
      split
      · exact ho.length_data hp
      · exact Nat.zero_le _
    case h_2 => exact Nat.zero_le _

lemma fits_refusal? (ho : o.Fits) (hm : m.Fits) (ha : refusal? o m = some a) : a.Fits := by
  obtain ⟨r, _, rfl⟩ := Option.map_eq_some_iff.mp ha
  exact hm.of_map rfl fun e he => fits_refusedEntry ho m.esv (hm.data e he)

lemma fits_answer? (ho : o.Fits) (hm : m.Fits) (ha : answer? o m = some a) : a.Fits :=
  hm.of_map (entries_of_answer? ha) fun e _ => ho.length_getD e.epc

lemma fits_serve (hl : h.listener = none) (ho : h.object.Fits) (hm : m.Fits) {out : Outbox}
    (ha : (serve h m out).answer = some a) : a.Fits := by
  cases verdict h.object m with
  | acknowledged hi =>
    rw [serve_infC hi] at ha
    obtain rfl := Option.some.inj ha
    exact fits_acknowledgement hm h.object
  | dropped hi hr =>
    rw [serve_dropped hi hr] at ha
    cases ha
  | refused success refusal hx hb =>
    obtain ⟨reason, hs⟩ := serve_refused hx hb out
    rw [hs] at ha
    exact fits_refusal? ho hm ha
  | accepted success refusal hx hok =>
    rw [serve_quiet hl hx hok] at ha
    exact fits_answer? (ho.after hm) hm ha

end Request

namespace LocalNode

def Fits (n : LocalNode) : Prop := ∀ h ∈ n.objects.toList, h.object.Fits

def Operation.Fits : Operation → Prop
  | .add a => ∀ h, a.object? = some h → h.object.Fits
  | .edit _ e => e.Fits
  | .handle m => ∃ bytes, Message.decode bytes = .ok m
  | _ => True

variable {n : LocalNode} {op : Operation} {m a : Message}

lemma fits_new (settings : NodeSettings) (serial : Serial) (firstTid : UInt16) :
    (new settings serial firstTid).Fits := by
  intro h hh
  obtain rfl := List.mem_singleton.mp hh
  exact (Object.fits_nodeProfile settings.manufacturer settings.sendOnly serial).withAttached true

lemma Leaves.fits {o : Object} (hn : n.Fits) (hf : op.Fits) (hl : n.Leaves op o) : o.Fits := by
  induction hl with
  | held hh => exact hn _ hh
  | adopted hop ho =>
    subst hop
    exact ((hf _ ho).setManufacturer n.settings.manufacturer).withAttached true
  | described devices _ ih => exact ih.describeDevices devices
  | edited hop _ ih =>
    subst hop
    exact ih.edit hf
  | stamped code _ ih => exact ih.setManufacturer code
  | identified code serial _ ih => exact ih.identified code serial
  | written hop _ ih =>
    subst hop
    obtain ⟨bytes, hd⟩ := hf
    exact ih.storeAll (Request.fits_written (Message.fits_of_decode hd) _)

lemma Fits.operate (hn : n.Fits) (hf : op.Fits) (hq : n.Quiet op) : (n.operate op).Fits :=
  fun h hh => (leaves_operate hq h hh).fits hn hf

lemma fits_entry? {e : Object.Edit} {entry : Entry} (he : e.Fits) (hs : e.entry? = some entry) :
    entry.Fits := by
  cases e with
  | setData =>
    obtain rfl := Option.some.inj hs
    exact he
  | setInteger epc value size =>
    obtain rfl := Option.some.inj hs
    exact Property.length_integerBytes_le value size
  | add | addWithData | setAccess | setManufacturer => cases hs

lemma Operation.Fits.written (hf : op.Fits) (o : Object) : ∀ e ∈ op.written o, e.Fits := by
  cases op with
  | edit object e =>
    intro entry hm
    exact fits_entry? hf (Option.mem_toList.mp (List.mem_of_mem_filter hm))
  | handle m =>
    obtain ⟨bytes, hd⟩ := hf
    exact Request.fits_written (Message.fits_of_decode hd) o
  | _ => nofun

lemma Operation.Fits.changes (hf : op.Fits) {x : Change} (hx : x ∈ n.changes op) :
    x.entry.Fits := by
  rw [LocalNode.changes] at hx
  split at hx
  · exact hf.written _ _ (Object.mem_entries_changes hx)
  · cases hx

lemma Operation.Fits.due (hf : op.Fits) (c : TransactionCounter) :
    ∀ a ∈ Change.notifications c (n.due op), a.Encodes := by
  intro a ha
  obtain ⟨x, hx, he⟩ := Change.entries_notifications ha
  have hm : x ∈ n.changes op := by
    rw [LocalNode.due] at hx
    split at hx
    · exact List.mem_of_mem_filter hx
    · cases hx
  exact (Message.fits_of_singleton he (hf.changes hm)).encodes

lemma Fits.encodes_answer (hn : n.Fits) (hm : m.Fits) (hq : n.Quiet (.handle m))
    (ha : (n.handle m).2.answer = some a) : a.Encodes := by
  rcases n.objects.exists_addressed_or m.deoj with ⟨h, put, hh⟩ | hu
  · simp only [LocalNode.handle, NodeObjects.handle_addressed hh] at ha
    exact (Request.fits_serve (hq h hh.find?) (hn h hh.mem) hm ha).encodes
  · simp only [LocalNode.handle, NodeObjects.handle_unaddressed hu] at ha
    cases ha

lemma Fits.encodes_notification (hn : n.Fits) : n.instanceListNotification.1.Encodes := by
  refine (Message.fits_of_singleton rfl ?_).encodes
  rw [Entry.Fits, Entry.pdc]
  cases hp : n.objects.nodeProfile? with
  | none => exact Nat.zero_le _
  | some h =>
    have hh : h ∈ n.objects.toList := List.mem_append_left _ (List.mem_of_find?_eq_some hp)
    exact (hn h hh).length_getD Epc.announcedInstances

lemma Fits.operateAll (hn : n.Fits) {ops : List Operation} (hf : ∀ op ∈ ops, op.Fits)
    (hq : n.QuietAll ops) : (n.operateAll ops).Fits ∧
      ∃ more, n.taken ops ++ (n.operateAll ops).outbox.queue = n.outbox.queue ++ more ∧
        ∀ a ∈ more, a.Encodes := by
  induction ops generalizing n with
  | nil => exact ⟨hn, [], (List.append_nil n.outbox.queue).symm, nofun⟩
  | cons op ops ih =>
    obtain ⟨hop, hops⟩ := hq
    obtain ⟨hfop, hfops⟩ := List.forall_mem_cons.mp hf
    obtain ⟨hlast, more, hqueue, hmore⟩ := ih (hn.operate hfop hop) hfops hops
    refine ⟨hlast, Change.notifications n.outbox.counter (n.due op) ++ more, ?_, ?_⟩
    · change n.takenBy op ++ (n.operate op).taken ops ++
        ((n.operate op).operateAll ops).outbox.queue = _
      rw [List.append_assoc, hqueue, ← List.append_assoc, (accounted_operate hop).queue,
        List.append_assoc]
    · exact fun a ha => (List.mem_append.mp ha).elim (hfop.due _ a) (hmore a)

/-- New objects and new nodes hold no property with more than 255 bytes. From any node of which this
is true, it stays true over every run in which what the owner brings in keeps to the limit; all that
is queued in the run has a frame, and so have the answer to every message that came from a frame and
the notification of the devices. -/
theorem fits_and_encodes :
    (∀ (origin : Object.Origin) (edits : List Object.Edit), (∀ e ∈ edits, e.Fits) →
      (origin.object.editAll edits).Fits) ∧
    (∀ settings serial firstTid, (new settings serial firstTid).Fits) ∧
    ∀ n : LocalNode, n.Fits →
      (∀ ops : List Operation, (∀ op ∈ ops, op.Fits) → n.QuietAll ops →
        (n.operateAll ops).Fits ∧
        ∃ more, n.taken ops ++ (n.operateAll ops).outbox.queue = n.outbox.queue ++ more ∧
          ∀ a ∈ more, a.Encodes) ∧
      (∀ bytes m a, Message.decode bytes = .ok m → n.Quiet (.handle m) →
        (n.handle m).2.answer = some a → a.Encodes) ∧
      n.instanceListNotification.1.Encodes := by
  refine ⟨fun origin edits => origin.fits.editAll, fits_new, fun n hn => ⟨?_, ?_, ?_⟩⟩
  · intro ops hf hq
    exact hn.operateAll hf hq
  · intro bytes m a hd hq ha
    exact hn.encodes_answer (Message.fits_of_decode hd) hq ha
  · exact hn.encodes_notification

def toDisplay (esv : Service) (text : Bytes) : Message :=
  { seoj := .controller, deoj := ⟨0x06, 0x01, 0x01⟩, esv, entries := [⟨0xB0, text⟩] }

def displayed (text : Bytes) : List Operation :=
  [.add (.device { object :=
      (Object.device ⟨0x06, 0x01, 0x01⟩).edit (.addWithData 0xB0 .readWriteAnnounce text) }),
    .beginStart, .completeStart { settings := {} }, .handle (toDisplay .setC text)]

lemma decode_toDisplay (esv : Service) {text : Bytes} (ht : text.length ≤ Frame.byteLimit) :
    Message.decode (toDisplay esv text).wire = .ok (toDisplay esv text) :=
  Message.decode_eq_ok_iff.mpr ⟨Message.fits_of_singleton rfl ht, List.prefix_refl _⟩

lemma taken_displayed (n : LocalNode) (text : Bytes) : n.taken (displayed text) = [] := rfl

theorem fits_and_encodes_display :
    let text : Bytes := .replicate 255 0x41
    let n := (new {} (.replicate 13 0) 0).operateAll (displayed text)
    (new {} (.replicate 13 0) 0).Fits ∧ (∀ op ∈ displayed text, op.Fits) ∧
      (new {} (.replicate 13 0) 0).QuietAll (displayed text) ∧ n.Fits ∧
      n.outbox.queue.map Message.entries = [[⟨0xB0, text⟩]] ∧ (∀ a ∈ n.outbox.queue, a.Encodes) ∧
      ∃ a, (n.handle (toDisplay .get [])).2.answer = some a ∧ a.entries = [⟨0xB0, text⟩] ∧
        a.Encodes := by
  intro text n
  obtain ⟨hmade, hnew, hrun⟩ := fits_and_encodes
  have ht : text.length ≤ Frame.byteLimit := by
    rw [List.length_replicate]
    decide
  have hf : ∀ op ∈ displayed text, op.Fits := by
    simp only [displayed, List.forall_mem_cons]
    refine ⟨?_, trivial, trivial, ⟨_, decode_toDisplay .setC ht⟩, nofun⟩
    intro h ho
    obtain rfl := Option.some.inj ho
    exact hmade (.device _) [.addWithData 0xB0 .readWriteAnnounce text]
      (List.forall_mem_singleton.mpr ht)
  have hq : (new {} (.replicate 13 0) 0).QuietAll (displayed text) := by decide +kernel
  obtain ⟨hn, more, hqueue, hmore⟩ := (hrun _ (hnew {} (.replicate 13 0) 0)).1 _ hf hq
  have hmore' : ∀ a ∈ n.outbox.queue, a.Encodes := by
    rw [taken_displayed, List.nil_append] at hqueue
    rw [show n.outbox.queue = more from hqueue]
    exact hmore
  have ha : (n.handle (toDisplay .get [])).2.answer.map Message.entries = some [⟨0xB0, text⟩] := by
    decide +kernel
  obtain ⟨a, ha, he⟩ := Option.map_eq_some_iff.mp ha
  refine ⟨hnew _ _ _, hf, hq, hn, by decide +kernel, hmore', a, ha, he, ?_⟩
  exact (hrun n hn).2.1 _ _ a (decode_toDisplay .get (Nat.zero_le _)) (by decide +kernel) ha

end LocalNode

end EchonetLite

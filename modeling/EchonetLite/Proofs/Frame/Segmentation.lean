import EchonetLite.Proofs.Frame.Boundary

/-! The cut of a stream into pieces does not show. Whatever the pieces, the messages taken off are
those of the longest run of whole frames at the front, and reading stops for the same reason. -/

namespace EchonetLite

namespace Stream

structure Parts (bytes : Bytes) (ms : List Message) (fault : Option Error) (rest : Bytes) :
    Prop where
  fits : ∀ m ∈ ms, m.Fits
  bytes_eq : bytes = ms.flatMap Message.wire ++ rest
  stops : (⟨rest⟩ : Stream).next = (fault.elim (.ok none) .error, ⟨rest⟩)

variable {bytes rest : Bytes} {ms : List Message} {fault : Option Error}

lemma next_error_append {e : Error} (h : (⟨rest⟩ : Stream).next = (.error e, ⟨rest⟩))
    (more : Bytes) : (⟨rest ++ more⟩ : Stream).next = (.error e, ⟨rest ++ more⟩) := by
  obtain ⟨cause, rfl, hd⟩ := malformed_of_next (congrArg Prod.fst h)
  exact next_of_malformed (Message.decode_malformed_append hd more)

namespace Parts

lemma cons {m : Message} (hm : m.Fits) (h : Parts bytes ms fault rest) :
    Parts (m.wire ++ bytes) (m :: ms) fault rest where
  fits := List.forall_mem_cons.mpr ⟨hm, h.fits⟩
  bytes_eq := by rw [h.bytes_eq, List.flatMap_cons, List.append_assoc]
  stops := h.stops

lemma append {bytes' : Bytes} {ms' : List Message} (h : Parts bytes ms none rest)
    {rest' : Bytes} (h' : Parts (rest ++ bytes') ms' fault rest') :
    Parts (bytes ++ bytes') (ms ++ ms') fault rest' where
  fits := List.forall_mem_append.mpr ⟨h.fits, h'.fits⟩
  bytes_eq := by
    rw [h.bytes_eq, List.append_assoc, h'.bytes_eq, List.flatMap_append, List.append_assoc]
  stops := h'.stops

lemma append_right {e : Error} (h : Parts bytes ms (some e) rest) (more : Bytes) :
    Parts (bytes ++ more) ms (some e) (rest ++ more) where
  fits := h.fits
  bytes_eq := by rw [h.bytes_eq, List.append_assoc]
  stops := next_error_append h.stops more

lemma maximal (h : Parts bytes ms fault rest) {ms' : List Message} (hf : ∀ m ∈ ms', m.Fits)
    (hp : ms'.flatMap Message.wire <+: bytes) : ms' <+: ms := by
  induction ms generalizing bytes ms' with
  | nil =>
    cases ms' with
    | nil => exact List.prefix_refl _
    | cons m' ms' =>
      obtain ⟨more, hmore⟩ := hp
      have hn := next_wire_append (List.forall_mem_cons.mp hf).1 (ms'.flatMap Message.wire ++ more)
      have hr : m'.wire ++ (ms'.flatMap Message.wire ++ more) = rest := by
        rw [← List.append_assoc, ← List.flatMap_cons, hmore, h.bytes_eq]
        rfl
      rw [hr, h.stops] at hn
      cases fault <;> cases hn
  | cons m ms ih =>
    cases ms' with
    | nil => exact List.nil_prefix
    | cons m' ms' =>
      obtain ⟨hm, hms⟩ := List.forall_mem_cons.mp h.fits
      obtain ⟨hm', hms'⟩ := List.forall_mem_cons.mp hf
      obtain ⟨more, hmore⟩ := hp
      have hb : m'.wire ++ (ms'.flatMap Message.wire ++ more) =
          m.wire ++ (ms.flatMap Message.wire ++ rest) := by
        rw [← List.append_assoc, ← List.flatMap_cons, hmore, h.bytes_eq, List.flatMap_cons,
          List.append_assoc]
      have hd := Message.decode_wire_append hm' (ms'.flatMap Message.wire ++ more)
      rw [hb, Message.decode_wire_append hm] at hd
      obtain rfl := Except.ok.inj hd
      have htail := ih ⟨hms, rfl, h.stops⟩ hms' ⟨more, List.append_cancel_left hb⟩
      exact List.cons_prefix_cons.mpr ⟨rfl, htail⟩

lemma unique {ms' : List Message} {fault' : Option Error} {rest' : Bytes}
    (h : Parts bytes ms fault rest) (h' : Parts bytes ms' fault' rest') :
    ms = ms' ∧ fault = fault' ∧ rest = rest' := by
  have hp := h'.maximal h.fits ⟨rest, h.bytes_eq.symm⟩
  have hp' := h.maximal h'.fits ⟨rest', h'.bytes_eq.symm⟩
  obtain rfl := hp.eq_of_length_le hp'.length_le
  obtain rfl : rest = rest' := List.append_cancel_left (h.bytes_eq.symm.trans h'.bytes_eq)
  refine ⟨rfl, ?_, rfl⟩
  have hs := (Prod.mk.inj (h.stops.symm.trans h'.stops)).1
  cases fault <;> cases fault' <;> simp_all

end Parts

lemma drainFor_parts {fuel : Nat} {s : Stream} (h : s.buffer.length < fuel) :
    ∃ rest, Parts s.buffer (drainFor fuel s).1 (drainFor fuel s).2.1 rest ∧
      (drainFor fuel s).2.2 = ⟨rest⟩ := by
  induction fuel generalizing s with
  | zero => omega
  | succ fuel ih =>
    rcases s.next_cases with ⟨m, rest, hm, hb, hn⟩ | ⟨e, -, -, hn⟩ | ⟨fault, -, hn⟩
    · have hl : rest.length < fuel := by
        rw [hb, List.length_append, m.length_wire, Message.encodedLength] at h
        omega
      obtain ⟨rest', hp, hs⟩ := ih (s := ⟨rest⟩) hl
      simp only [drainFor, hn]
      rw [hb]
      exact ⟨rest', hp.cons hm, hs⟩
    · simp only [drainFor, hn]
      exact ⟨s.buffer, ⟨by simp, by simp, hn⟩, rfl⟩
    · simp only [drainFor, hn]
      exact ⟨s.buffer, ⟨by simp, by simp, hn⟩, rfl⟩

lemma drain_parts (s : Stream) :
    ∃ rest, Parts s.buffer s.drain.1 s.drain.2.1 rest ∧ s.drain.2.2 = ⟨rest⟩ :=
  drainFor_parts (Nat.lt_succ_self _)

lemma receive_parts {s : Stream} (hs : s.next = (.ok none, s)) (pieces : List Bytes) :
    ∃ rest, Parts (s.buffer ++ pieces.flatten) (receive s pieces).1 (receive s pieces).2.1 rest ∧
      ((receive s pieces).2.1 = none → (receive s pieces).2.2 = ⟨rest⟩) := by
  induction pieces generalizing s with
  | nil => exact ⟨s.buffer, ⟨by simp [receive], by simp [receive], hs⟩, fun _ => rfl⟩
  | cons piece pieces ih =>
    rw [List.flatten_cons, ← List.append_assoc]
    cases hd : (s.feed piece).drain with
    | mk ms tail =>
      obtain ⟨fault, s'⟩ := tail
      obtain ⟨rest, hp, hr⟩ := (s.feed piece).drain_parts
      rw [hd] at hp hr
      obtain rfl : s' = ⟨rest⟩ := hr
      cases fault with
      | none =>
        obtain ⟨rest', hp', hr'⟩ := ih (s := ⟨rest⟩) hp.stops
        simp only [receive, hd]
        exact ⟨rest', hp.append hp', hr'⟩
      | some e =>
        simp only [receive, hd]
        exact ⟨rest ++ pieces.flatten, hp.append_right pieces.flatten, by simp⟩

/-- The pieces in which a stream arrives make no difference: the messages are the same, so is the
fault, and without a fault so is what is left over. The messages are those of the longest run of
whole frames at the front of the stream. -/
theorem receive_segmentation {pieces pieces' : List Bytes} {ms ms' : List Message}
    {fault fault' : Option Error} {s s' : Stream} (same : pieces.flatten = pieces'.flatten)
    (hr : receive {} pieces = (ms, fault, s)) (hr' : receive {} pieces' = (ms', fault', s')) :
    ms = ms' ∧ fault = fault' ∧
    (fault = none → s = s' ∧ pieces.flatten = ms.flatMap Message.wire ++ s.buffer ∧
      s.last = (if s.buffer = [] then .ok none else .error (.io .bytesRemaining), s)) ∧
    (∀ e, fault = some e → ∃ cause rest, e = .malformedFrame cause ∧
      pieces.flatten = ms.flatMap Message.wire ++ rest ∧ Message.decode rest = .error e) ∧
    (∀ m ∈ ms, m.encode = .ok m.wire) ∧ ms.flatMap Message.wire <+: pieces.flatten ∧
    ∀ run : List Message, (∀ m ∈ run, m.encode = .ok m.wire) →
      run.flatMap Message.wire <+: pieces.flatten → run <+: ms := by
  have hstart : ({} : Stream).next = (.ok none, {}) := rfl
  obtain ⟨rest, hp, hrest⟩ := receive_parts hstart pieces
  obtain ⟨rest', hp', hrest'⟩ := receive_parts hstart pieces'
  rw [hr] at hp hrest
  rw [hr', ← same] at hp'
  rw [hr'] at hrest'
  obtain ⟨rfl, rfl, rfl⟩ := hp.unique hp'
  have hb : pieces.flatten = ms.flatMap Message.wire ++ rest := hp.bytes_eq
  refine ⟨rfl, rfl, ?_, ?_, ?_, ⟨rest, hb.symm⟩, ?_⟩
  · intro hf
    obtain rfl : s = ⟨rest⟩ := hrest hf
    have hn := hp.stops
    rw [hf] at hn
    exact ⟨(hrest' hf).symm, hb, last_of_incomplete hn⟩
  · rintro e rfl
    obtain ⟨cause, rfl, hd⟩ := malformed_of_next (congrArg Prod.fst hp.stops)
    exact ⟨cause, rest, rfl, hb, hd⟩
  · intro m hm
    exact Message.encode_eq_ok_iff.mpr ⟨hp.fits m hm, rfl⟩
  · intro run hrun hfront
    exact hp.maximal (fun m hm => (Message.encode_eq_ok_iff.mp (hrun m hm)).1) hfront

def cutInside : List Bytes :=
  [[0x10, 0x81, 0x00, 0x00, 0x05], [0xFF, 0x01, 0x0E, 0xF0, 0x01, 0x62, 0x01, 0x80, 0x00, 0x10],
    [0x82, 0x00]]

def cutBehind : List Bytes :=
  [[0x10, 0x81, 0x00, 0x00, 0x05, 0xFF, 0x01, 0x0E, 0xF0, 0x01, 0x62, 0x01, 0x80, 0x00, 0x10, 0x82],
    [0x00]]

theorem receive_segmentation_request :
    cutInside.flatten = cutBehind.flatten ∧
      receive {} cutInside = ([.readRequest .controller .nodeProfile [0x80]],
        some (.malformedFrame (.secondByte 0x82)), ⟨[0x10, 0x82, 0x00]⟩) ∧
      receive {} cutBehind = ([.readRequest .controller .nodeProfile [0x80]],
        some (.malformedFrame (.secondByte 0x82)), ⟨[0x10, 0x82]⟩) ∧
      ∀ run : List Message, (∀ m ∈ run, m.encode = .ok m.wire) →
        run.flatMap Message.wire <+: cutInside.flatten →
          run <+: [.readRequest .controller .nodeProfile [0x80]] := by
  have same : cutInside.flatten = cutBehind.flatten := by decide
  have hr : receive {} cutInside = ([.readRequest .controller .nodeProfile [0x80]],
      some (.malformedFrame (.secondByte 0x82)), ⟨[0x10, 0x82, 0x00]⟩) := by decide
  have hr' : receive {} cutBehind = ([.readRequest .controller .nodeProfile [0x80]],
      some (.malformedFrame (.secondByte 0x82)), ⟨[0x10, 0x82]⟩) := by decide
  have h := receive_segmentation same hr hr'
  exact ⟨same, hr, hr', h.2.2.2.2.2.2⟩

end Stream

end EchonetLite
